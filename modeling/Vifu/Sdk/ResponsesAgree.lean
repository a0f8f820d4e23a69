import Vifu.Gateway.WireRecords
import Vifu.Sdk.Responses

/-!
# Agreement of the two ways to a script's agent

Both ways give the handler the same request and wrap what it returns alike.  They differ for null: the
object that goes to WASM keeps `state: null` as a state and `metadata: null` as metadata, while the result
message of the host has no null there.
-/

namespace Vifu.Sdk

open Foundation Vifu.Runtime
open Vifu.Gateway (entries_recordValue taggedContent_recordValue)

def JsValue.read (value : JsValue) : Option Value := value.toJson.map Value.normalized

theorem toJson_normalized (properties : List (String × JsValue)) :
    ((JsValue.object properties).toJson.map Value.normalized) =
      some (recordValue (properties.map fun property => (property.1, property.2.read))) := by
  have fields : normalizedFields (JsValue.propertiesToJson properties) =
      presentFields (properties.map fun property => (property.1, property.2.read)) := by
    rw [JsValue.propertiesToJson_eq]
    induction properties with
    | nil => rfl
    | cons property properties ih =>
      rw [List.filterMap_cons, List.map_cons, presentFields, List.filterMap_cons, ← presentFields,
        ← ih, JsValue.read]
      cases property.2.toJson <;> rfl
  rw [JsValue.toJson, Option.map_some, Value.normalized, fields]
  rfl

variable {properties : List (String × JsValue)} {value : JsValue}

theorem getField_read (distinct : Distinct properties) (key : String) :
    getField key (sortFields (presentFields (properties.map fun property => (property.1, property.2.read)))) =
      ((JsValue.object properties).property key).read := by
  rw [getField_recordValue (by rw [List.map_map]; exact distinct)]
  clear distinct
  induction properties with
  | nil => rfl
  | cons property properties ih =>
    rw [JsValue.property] at ih ⊢
    rw [List.map_cons, List.lookup_cons, List.lookup_cons]
    split
    · rfl
    · exact ih

theorem read_ofJson (json : Value) : (JsValue.ofJson json).read = some json.normalized := by
  rw [JsValue.read, JsValue.toJson_ofJson, Option.map_some]

theorem read_of_isJson (isJson : value.IsJson) : ∃ json, value.read = some json := by
  obtain ⟨json, rfl⟩ := isJson
  exact ⟨json.normalized, read_ofJson json⟩

/-- Neither metadata nor state is null, and what the runtime reads of the response is read again from the texts
that the host writes for it. -/
structure Carried (json : SdkJson) (response : JsValue) : Prop where
  metadata : response.property "metadata" ≠ .null
  state : response.property "state" ≠ .null
  texts : ∀ key ∈ ["output", "metadata", "state"], ∀ value ∈ (response.property key).read, json.Reads value

def SdkJson.ReadsScript (json : SdkJson) (value : JsValue) : Prop :=
  ∀ content ∈ value.toJson, json.reader.RoundTrips json.scriptFloats content

/-- The JSON texts of an invocation are read as the values that they were written for: those of the request, the
two that the script writes, and an empty object. -/
structure Readable (json : SdkJson) (id : String) (handler : JsValue → AgentReturn) (request : ProviderRequest) : Prop where
  agent : json.Reads request.agent.metadata
  input : ∀ value, request.data = .json value → json.Reads value
  metadata : json.Reads request.metadata
  state : json.Reads request.snapshot.state
  received : json.Reads (wasmRequestJson request)
  invoke : json.Reads (invokeMessage id (wasmRequestJson request))
  returned : json.ReadsScript (agentResponse (handler (.ofJson (wasmRequestJson request))).value)
  result : json.ReadsScript (resultMessage id (agentResponse (handler (.ofJson (wasmRequestJson request))).value))
  empty : json.Reads .emptyObject

variable {json : SdkJson} {id : String} {handler : JsValue → AgentReturn} {request : ProviderRequest}
  {response : JsValue}

theorem parse_text {value : Value} (reads : json.Reads value) :
    JsValue.parse json.reader (value.text json.floats) = some (.ofJson value) := by
  have mapped := congrArg (Option.map JsValue.ofJson) reads
  rwa [SdkJson.read, Option.map_map] at mapped

theorem parseJsonOrNull_text {value : Value} (reads : json.Reads value) :
    parseJsonOrNull json (value.text json.floats) = value := by
  rw [parseJsonOrNull, reads, Option.getD_some]

theorem bridgeRequestJson_eq (readable : Readable json id handler request) :
    bridgeRequestJson json request = wasmRequestJson request := by
  have data : bridgeDataJson json request.data = invocationDataJson request.data := by
    cases isData : request.data with
    | json value => exact parseJsonOrNull_text (readable.input value isData)
    | binary bytes => rfl
  rw [bridgeRequestJson, wasmRequestJson, data, parseJsonOrNull_text readable.agent,
    parseJsonOrNull_text readable.metadata, parseJsonOrNull_text readable.state]

theorem property_request (id : String) (value : Value) :
    (JsValue.ofJson (invokeMessage id value)).property "request" = .ofJson value := by
  have distinct : ([("type", some (Value.string "invoke")), ("id", some (.string id)),
      ("request", some value)].map Prod.fst).Nodup := by simp
  have found := getField_recordValue distinct "request"
  rw [invokeMessage, recordValue, JsValue.property_ofJson, found]
  simp [List.lookup_cons]

/-! ## What a handler returns -/

theorem isJson_property (isJson : value.IsJson) (key : String) : (value.property key).IsOptionalJson := by
  obtain ⟨json, rfl⟩ := isJson
  cases json with
  | object fields =>
    rw [JsValue.property_ofJson]
    cases getField key fields with
    | none => exact Or.inl rfl
    | some json => exact Or.inr ⟨json, rfl⟩
  | null | bool | number | string | array => exact Or.inl rfl

theorem not_isJson_undefined : ¬ JsValue.undefined.IsJson := by
  rintro ⟨json, same⟩
  cases json <;> cases same

theorem agentResponse_object (returned : AgentReturn) :
    ∃ properties, agentResponse returned.value = .object properties ∧ Distinct properties ∧
      ((agentResponse returned.value).property "output").IsJson ∧
      ((agentResponse returned.value).property "metadata").IsOptionalJson ∧
      ((agentResponse returned.value).property "state").IsOptionalJson := by
  cases isResponse : isAgentResponse returned.value with
  | true =>
    rw [agentResponse, if_pos isResponse]
    cases isObject : returned.value with
    | object properties =>
      refine ⟨properties, rfl, (isObject ▸ returned.wellFormed).distinct, ?_⟩
      rw [← isObject]
      cases returned.typed with
      | inr response => exact response
      | inl isJson =>
        refine ⟨?_, isJson_property isJson "metadata", isJson_property isJson "state"⟩
        obtain ⟨json, same⟩ := isJson
        rw [← same] at isResponse isObject ⊢
        cases json with
        | object fields =>
          rw [JsValue.ofJson, isAgentResponse, JsValue.propertiesOfJson_keys, List.contains_iff_mem] at isResponse
          rw [JsValue.property_ofJson]
          cases found : getField "output" fields with
          | some output => exact ⟨output, rfl⟩
          | none =>
            obtain ⟨field, mem, isKey⟩ := List.mem_map.mp isResponse
            rw [getField, List.lookup_eq_none_iff] at found
            simpa [isKey] using found field mem
        | null | bool | number | string | array => cases isObject
    | undefined | null | bool | number | string | array => simp [isObject, isAgentResponse] at isResponse
  | false =>
    rw [agentResponse, if_neg (by simp [isResponse])]
    refine ⟨_, rfl, by simp [Distinct], ?_, Or.inl rfl, Or.inl rfl⟩
    cases returned.typed with
    | inl isJson => exact isJson
    | inr response =>
      -- an object without the property has no output
      exfalso
      cases isObject : returned.value with
      | object properties =>
        have output := response.1
        rw [isObject, JsValue.property] at output
        rw [isObject, isAgentResponse] at isResponse
        have absent : properties.lookup "output" = none := by
          rw [List.lookup_eq_none_iff]
          intro property mem
          rw [bne_iff_ne]
          intro isKey
          have present : (properties.map Prod.fst).contains "output" = true := by
            rw [List.contains_iff_mem, isKey]
            exact List.mem_map_of_mem mem
          rw [present] at isResponse
          cases isResponse
        rw [absent] at output
        exact not_isJson_undefined output
      | undefined | null | bool | number | string | array =>
        rw [isObject] at response
        exact not_isJson_undefined response.1

/-! ## Responses -/

theorem read_stringify (reads : json.ReadsScript (.object properties)) :
    ((JsValue.object properties).stringify json.scriptFloats).bind json.read =
      some (recordValue (properties.map fun property => (property.1, property.2.read))) := by
  have content : (JsValue.object properties).toJson = some (.object (JsValue.propertiesToJson properties)) := rfl
  have roundTrips := reads _ content
  have normalized := toJson_normalized properties
  rw [content, Option.map_some] at normalized
  rw [JsValue.stringify, content, Option.map_some, Option.bind_some, SdkJson.read, roundTrips, Option.map_some, normalized]

theorem localResponse_eq (readable : Readable json id handler request)
    (isResponse : agentResponse (handler (.ofJson (wasmRequestJson request))).value = response) {output : Value}
    (isOutput : (response.property "output").read = some output) : localResponse json handler request = some
      { data := .json output
        metadata := (response.property "metadata").read.getD .emptyObject
        state := (response.property "state").read } := by
  obtain ⟨properties, isObject, distinct, -⟩ := agentResponse_object (handler (.ofJson (wasmRequestJson request)))
  have reads := readable.returned
  rw [isObject] at reads
  have text := read_stringify reads
  rw [isResponse] at isObject
  subst isObject
  have found := getField_read distinct
  rw [localResponse, parse_text readable.received]
  simp only [Option.bind_eq_bind, Option.bind_some, isResponse, pure]
  rw [← Option.bind_assoc, text, Option.bind_some]
  simp only [recordValue, providerResponse, found, isOutput]

def presentJson (value : Option Value) : Option Value := value.filter fun json => decide (json ≠ .null)

theorem readNullable_some (value : Option Value) : readNullable some value = some (presentJson value) := by
  cases value with
  | none => rfl
  | some json => cases json <;> rfl

theorem presentJson_getD (value : Option Value) : (presentJson value).getD .null = value.getD .null := by
  cases value with
  | none => rfl
  | some json => cases json <;> rfl

theorem ofValue_resultMessage (id : String) (response : JsValue) (metadata : Value)
    (isMetadata : (coalesceNullish (response.property "metadata") (.object [])).read = some metadata)
    (nonNull : metadata ≠ .null) (message : resultMessage id response = .object properties) :
    BridgeMessage.ofValue (recordValue (properties.map fun property => (property.1, property.2.read))) =
      some (.result id
        { ok := true
          output := presentJson (response.property "output").read
          metadata := some metadata
          state := presentJson (response.property "state").read
          error := none }) := by
  cases message
  have fields : recordValue ([("type", JsValue.string "result"), ("id", .string id), ("ok", .bool true),
        ("output", response.property "output"),
        ("metadata", coalesceNullish (response.property "metadata") (.object [])),
        ("state", response.property "state")].map fun property => (property.1, property.2.read)) =
      recordValue (("type", some (.string "result")) :: [("id", some (.string id)), ("ok", some (.bool true)),
        ("output", (response.property "output").read), ("metadata", some metadata),
        ("state", (response.property "state").read), ("error", none)]) := by
    simp [recordValue, presentFields, isMetadata]
    rfl
  obtain ⟨entries, isRecord, found⟩ := entries_recordValue ["id", "ok", "output", "metadata", "state", "error"]
    [("id", some (.string id)), ("ok", some (.bool true)), ("output", (response.property "output").read),
      ("metadata", some metadata), ("state", (response.property "state").read), ("error", none)] rfl (by decide)
  have present : presentJson (some metadata) = some metadata := by simp [presentJson, nonNull]
  have noError : readNullable Value.asString none = some none := rfl
  rw [fields, BridgeMessage.ofValue, taggedContent_recordValue _ _ (by simp) (by simp)]
  simp only [Option.bind_eq_bind, Option.bind_some, isRecord, requiredField, optionField, found, List.lookup_cons]
  simp [readNullable_some, present, noError]

theorem read_coalesceNullish {metadata : JsValue} (optional : metadata.IsOptionalJson) :
    ∃ present, (coalesceNullish metadata (.object [])).read = some present ∧ present ≠ .null ∧
      (metadata = .null ∧ present = .emptyObject ∨ metadata ≠ .null ∧ present = metadata.read.getD .emptyObject) := by
  have empty : (JsValue.object []).read = some .emptyObject := rfl
  cases optional with
  | inl absent => exact ⟨.emptyObject, by rw [absent]; exact empty, by simp [Value.emptyObject], Or.inr (by simp [absent]; rfl)⟩
  | inr isJson =>
    obtain ⟨json, rfl⟩ := isJson
    cases json with
    | null => exact ⟨.emptyObject, empty, by simp [Value.emptyObject], Or.inl ⟨rfl, rfl⟩⟩
    | bool | number | string | array | object =>
      refine ⟨_, read_ofJson _, by simp [Value.normalized], Or.inr ⟨by simp [JsValue.ofJson], ?_⟩⟩
      rw [read_ofJson, Option.getD_some]

theorem gatewayResponse_eq (readable : Readable json id handler request)
    (isResponse : agentResponse (handler (.ofJson (wasmRequestJson request))).value = response) {output metadata : Value}
    (isOutput : (response.property "output").read = some output)
    (isMetadata : (coalesceNullish (response.property "metadata") (.object [])).read = some metadata)
    (nonNull : metadata ≠ .null) : gatewayResponse json id handler request =
      responseFromFfi json (output.text json.floats) (metadata.text json.floats)
        ((presentJson (response.property "state").read).map fun state => state.text json.floats) := by
  have reads := readable.result
  rw [isResponse] at reads
  have text := read_stringify reads
  have message := ofValue_resultMessage id response metadata isMetadata nonNull rfl
  rw [gatewayResponse, bridgeRequestJson_eq readable, parse_text readable.invoke]
  simp only [Option.bind_eq_bind, Option.bind_some, property_request, isResponse]
  rw [← Option.bind_assoc]
  rw [show (resultMessage id response).stringify json.scriptFloats = (JsValue.object _).stringify json.scriptFloats from rfl,
    text, Option.bind_some, message, Option.bind_some]
  simp [deliveredResponse, BridgeResult.response, isOutput, presentJson_getD]

theorem responseFromFfi_eq {output metadata : String} {state : Option String} {data : Value} {read : Value}
    {held : Option Value} :
    responseFromFfi json output metadata state = some { data := .json data, metadata := read, state := held } ↔
      json.read output = some data ∧ json.read metadata = some read ∧
        (state = none ∧ held = none ∨ ∃ text value, state = some text ∧ json.read text = some value ∧ held = some value) := by
  unfold responseFromFfi
  cases state with
  | none => cases json.read output <;> cases json.read metadata <;> simp [eq_comm]
  | some text =>
    cases json.read output with
    | none => simp
    | some output =>
      cases json.read metadata with
      | none => simp
      | some metadata =>
        cases isRead : json.read text <;> simp [isRead, eq_comm]

theorem read_eq_null (optional : value.IsOptionalJson) : value.read = some .null ↔ value = .null := by
  cases optional with
  | inl absent => simp [absent, JsValue.read, JsValue.toJson]
  | inr isJson =>
    obtain ⟨json, rfl⟩ := isJson
    rw [read_ofJson]
    cases json <;> simp [Value.normalized, JsValue.ofJson]

/-- The two ways hand over the same response exactly when the response has no null metadata and no null state,
and its values are read again from the host's texts. -/
theorem invocation_paths_agree (json : SdkJson) (id : String) (handler : JsValue → AgentReturn)
    (request : ProviderRequest) (readable : Readable json id handler request) :
    localResponse json handler request = gatewayResponse json id handler request ↔
      Carried json (agentResponse (handler (.ofJson (wasmRequestJson request))).value) := by
  obtain ⟨-, -, -, outputJson, metadataJson, stateJson⟩ :=
    agentResponse_object (handler (.ofJson (wasmRequestJson request)))
  generalize isResponse : agentResponse (handler (.ofJson (wasmRequestJson request))).value = response at *
  obtain ⟨output, isOutput⟩ := read_of_isJson outputJson
  obtain ⟨metadata, isMetadata, nonNull, kept⟩ := read_coalesceNullish metadataJson
  have nullState := read_eq_null stateJson
  rw [localResponse_eq readable isResponse isOutput, eq_comm,
    gatewayResponse_eq readable isResponse isOutput isMetadata nonNull, responseFromFfi_eq]
  constructor
  · rintro ⟨readsOutput, readsMetadata, states⟩
    have notNull : response.property "metadata" ≠ .null := by
      intro isNull
      -- the host got an object in place of null, and reads it as an object
      obtain ⟨-, rfl⟩ : response.property "metadata" = .null ∧ metadata = .emptyObject :=
        kept.resolve_right fun isKept => isKept.1 isNull
      rw [isNull, show JsValue.read .null = some .null from rfl, readable.empty] at readsMetadata
      cases readsMetadata
    have same := (kept.resolve_left fun isNull => notNull isNull.1).2
    have stateNotNull : (response.property "state").read ≠ some .null := by
      intro isNull
      simp [isNull, presentJson] at states
    refine ⟨notNull, fun isNull => stateNotNull (nullState.mpr isNull), ?_⟩
    intro key member value isValue
    simp only [List.mem_cons, List.not_mem_nil, or_false] at member
    obtain rfl | rfl | rfl := member
    · rw [isOutput] at isValue
      cases isValue
      exact readsOutput
    · have isRead : (response.property "metadata").read = some value := isValue
      rw [isRead] at same readsMetadata
      rw [same] at readsMetadata
      exact readsMetadata
    · have isRead : (response.property "state").read = some value := isValue
      rw [isRead] at states stateNotNull
      have present : presentJson (some value) = some value := by
        simpa [presentJson] using fun isNull => stateNotNull (congrArg some isNull)
      rw [present] at states
      simpa [SdkJson.Reads] using states
  · intro carried
    have same := (kept.resolve_left fun isNull => carried.metadata isNull.1).2
    refine ⟨carried.texts "output" (by simp) output isOutput, ?_, ?_⟩
    · rw [← same]
      cases isRead : (response.property "metadata").read with
      | none =>
        rw [isRead] at same
        rw [same]
        exact readable.empty
      | some value =>
        rw [isRead] at same
        rw [same]
        exact carried.texts "metadata" (by simp) value isRead
    · cases isRead : (response.property "state").read with
      | none => exact Or.inl ⟨rfl, rfl⟩
      | some value =>
        have notNull : value ≠ .null := by
          rintro rfl
          exact carried.state (nullState.mp isRead)
        refine Or.inr ⟨_, value, ?_, carried.texts "state" (by simp) value isRead, rfl⟩
        simp [presentJson, notNull]

/-! ## An agent of one town -/

def greeting (state : JsValue) : JsValue := .object [("output", .string "hello"), ("state", state)]

def stateReturn : AgentReturn where
  value := greeting (.bool true)
  wellFormed := by simp [greeting, JsValue.WellFormed, JsValue.PropertiesWellFormed, Distinct]
  typed := Or.inr ⟨⟨.string "hello", rfl⟩, Or.inl rfl, Or.inr ⟨.bool true, rfl⟩⟩

def nullReturn : AgentReturn where
  value := greeting .null
  wellFormed := by simp [greeting, JsValue.WellFormed, JsValue.PropertiesWellFormed, Distinct]
  typed := Or.inr ⟨⟨.string "hello", rfl⟩, Or.inl rfl, Or.inr ⟨.null, rfl⟩⟩

def townRequest : ProviderRequest where
  projectId := "town"
  endpoint := "guide"
  sessionId := "default"
  agent := { id := "guide", name := "guide", provider := "guide-provider", capabilities := ["chat"], metadata := .emptyObject }
  capability := "chat"
  data := .json (.string "hi")
  metadata := .emptyObject
  snapshot := .default

def townReader : JsonReader where
  content source :=
    ([.emptyObject, .string "hi", .string "hello", .bool true, wasmRequestJson townRequest,
      invokeMessage "bridge-1" (wasmRequestJson townRequest)] ++
      [greeting (.bool true), greeting .null, resultMessage "bridge-1" (greeting (.bool true)),
        resultMessage "bridge-1" (greeting .null)].filterMap JsValue.toJson).find? fun tree =>
      decide (tree.text (fun _ => "0.5") = source)

def townJson : SdkJson where
  reader := townReader
  floats := fun _ => "0.5"
  scriptFloats := fun _ => "0.5"

theorem readable_town {returned : AgentReturn} (greets : returned = stateReturn ∨ returned = nullReturn) :
    Readable townJson "bridge-1" (fun _ => returned) townRequest where
  agent := by decide +kernel
  input := by
    intro value isInput
    cases isInput
    decide +kernel
  metadata := by decide +kernel
  state := by decide +kernel
  received := by decide +kernel
  invoke := by decide +kernel
  empty := by decide +kernel
  returned := by
    intro content isContent
    obtain rfl | rfl := greets <;> cases isContent <;> exact show _ = _ by decide +kernel
  result := by
    intro content isContent
    obtain rfl | rfl := greets <;> cases isContent <;> exact show _ = _ by decide +kernel

theorem invocation_paths_agree_state : localResponse townJson (fun _ => stateReturn) townRequest =
      gatewayResponse townJson "bridge-1" (fun _ => stateReturn) townRequest :=
  (invocation_paths_agree townJson "bridge-1" (fun _ => stateReturn) townRequest (readable_town (Or.inl rfl))).mpr
    { metadata := by simp [agentResponse, isAgentResponse, stateReturn, greeting, JsValue.property, List.lookup_cons]
      state := by simp [agentResponse, isAgentResponse, stateReturn, greeting, JsValue.property, List.lookup_cons]
      texts := by decide +kernel }

/-- The way through WASM replaces the session's state by null, and the other one keeps it. -/
theorem null_state_differs : Readable townJson "bridge-1" (fun _ => nullReturn) townRequest ∧
      (localResponse townJson (fun _ => nullReturn) townRequest).map (·.state) = some (some .null) ∧
      (gatewayResponse townJson "bridge-1" (fun _ => nullReturn) townRequest).map (·.state) = some none ∧
      localResponse townJson (fun _ => nullReturn) townRequest ≠
        gatewayResponse townJson "bridge-1" (fun _ => nullReturn) townRequest := by
  have first : (localResponse townJson (fun _ => nullReturn) townRequest).map (·.state) = some (some .null) := by
    decide +kernel
  have second : (gatewayResponse townJson "bridge-1" (fun _ => nullReturn) townRequest).map (·.state) = some none := by
    decide +kernel
  refine ⟨readable_town (Or.inr rfl), first, second, ?_⟩
  intro same
  rw [same, second] at first
  cases first

end Vifu.Sdk
