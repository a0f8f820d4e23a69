import Mathlib.Data.List.DropRight
import Vifu.Foundation.Brackets
import Vifu.Llama.Base64
import Vifu.Llama.VisibleOutput
import Vifu.Runtime.ProviderResponses

/-!
# A chat with a local model

The chat request of the llama provider: the response format, the evaluation of the prompt, the loop over the tokens and
the structured value at its end.  What llama.cpp answers to each call is given, and every call may fail.  The log keeps
the stage events, without times and metadata; the other events open and close no stage.
-/

namespace Vifu.Llama

open Foundation
open Vifu.Runtime (Value RuntimeError ProviderStage InvocationData FloatText trim isWhitespace)

/-- A stage that has ended did so with an error text or without one. -/
abbrev StageEvent := Mark ProviderStage (Option String)

abbrev Staged (α : Type) := Reports ProviderStage (Option String) RuntimeError α

def stageStarted (stage : ProviderStage) : Staged Unit := report (.began stage)

def stageCompleted (stage : ProviderStage) : Staged Unit := report (.ended stage none)

def stageFailed (stage : ProviderStage) (error : RuntimeError) : Staged Unit := report (.ended stage (some error.display))

def failStage {α : Type} (stage : ProviderStage) (error : RuntimeError) : Staged α := do
  stageFailed stage error
  fail error

/-- The stage ends as its result says, and an error is passed on. -/
def finishStage {α : Type} (stage : ProviderStage) : Except RuntimeError α → Staged α
  | .ok value => do
    stageCompleted stage
    return value
  | .error error => failStage stage error

section

variable {α β : Type} {stage : ProviderStage} {next : α → Staged β} {log : List StageEvent}

theorem finishStage_error_bind {error : RuntimeError} :
    (finishStage stage (.error error) >>= next) log = (.error error, log ++ [.ended stage (some error.display)]) := rfl

end

structure StructuredOutput where
  name : String
  schema : Value
  deriving DecidableEq

def maxJsonSchemaBytes : ℕ := 64 * 1024
def maxJsonSchemaNameBytes : ℕ := 64

/-- The object with the name and the schema, of either spelling of the format. -/
def schemaDefinition (format : Value) (formatType : String) : Except RuntimeError Value :=
  if formatType = "jsonSchema" then .ok format
  else if formatType = "json_schema" then
    okOr (providerError "response_format.json_schema is required")
      ((format.get? "json_schema").filter fun definition => definition.asObject.isSome)
  else .error (providerError "response format type is unsupported")

def parseStructuredOutput (floats : FloatText) (value : Value) : Except RuntimeError StructuredOutput := do
  ensure (value.asObject.isSome) (providerError "response format must be an object")
  let formatType ← okOr (providerError "response format type is required") ((value.get? "type").bind Value.asStr)
  let definition ← schemaDefinition value formatType
  ensure ((definition.get? "strict").getD (.bool true) = .bool true)
    (providerError "structured response strict must be true")
  let name ← okOr (providerError "response JSON schema name is required")
    ((((definition.get? "name").bind Value.asStr).map trim).filter fun name => name ≠ "")
  ensure (name.utf8ByteSize ≤ maxJsonSchemaNameBytes) (providerError "response JSON schema name is too long")
  let schema ← okOr (providerError "response JSON schema must be an object")
    ((definition.get? "schema").filter fun schema => schema.asObject.isSome)
  ensure (schema.encodedSize floats ≤ maxJsonSchemaBytes) (providerError "response JSON schema is too large")
  return ⟨name, schema⟩

/-! ## The prompt -/

def ensurePromptFitsContext (inputTokens contextSize maxTokens : ℕ) : Except RuntimeError Unit :=
  ensure (inputTokens + maxTokens ≤ contextSize) (providerError "chat prompt exceeds the configured context size")

def promptChunkRanges (tokenCount batchSize : ℕ) : Except RuntimeError (List ℕ) := do
  ensure (batchSize ≠ 0) (providerError "model batch size must be greater than zero")
  return (List.range tokenCount).filter (batchSize ∣ ·)

structure ChunkCalls where
  cancelled : Bool := false
  prepared : Bool := true
  decoded : Bool := true

def evaluateChunk (calls : ChunkCalls) : Except RuntimeError Unit := do
  ensure (calls.cancelled = false) .cancelled
  ensure (calls.prepared = true) (providerError "chat prompt could not be prepared")
  ensure (calls.decoded = true) (providerError "chat prompt inference failed")

structure TextCalls where
  /-- The number of tokens of the prompt, if it can be tokenized. -/
  tokens : Option ℕ
  batchSize : ℕ
  chunk : ℕ → ChunkCalls

def i32Max : ℕ := 2147483647

def tokenTotal (message : String) (tokens : ℕ) : Except RuntimeError ℕ := do
  ensure (tokens ≤ i32Max) (providerError message)
  return tokens

def prefillText (calls : TextCalls) (contextSize maxTokens tokens : ℕ) : Except RuntimeError ℕ := do
  ensurePromptFitsContext tokens contextSize maxTokens
  let starts ← promptChunkRanges tokens calls.batchSize
  starts.forM fun start => evaluateChunk (calls.chunk start)
  tokenTotal "chat prompt is too long" tokens

/-- The number of input tokens, which is also the position behind the prompt. -/
def evaluateTextPrompt (calls : TextCalls) (contextSize maxTokens : ℕ) : Staged ℕ := do
  stageStarted .tokenize
  match calls.tokens with
  | none => failStage .tokenize (providerError "chat prompt could not be tokenized")
  | some tokens =>
    if tokens = 0 then failStage .tokenize (providerError "chat prompt produced no tokens")
    else
      stageCompleted .tokenize
      stageStarted .prefill
      finishStage .prefill (prefillText calls contextSize maxTokens tokens)

structure MultimodalCalls where
  cancelled : Bool
  available : Bool
  bitmaps : List Bool
  tokens : Option ℕ
  batchSize : ℕ
  evaluated : Bool
  cancelledAfter : Bool

def tokenizeMultimodal (calls : MultimodalCalls) : Except RuntimeError ℕ := do
  ensure (calls.available = true) (providerError "multimodal context stopped")
  calls.bitmaps.forM fun decoded => ensure (decoded = true) (providerError "image content could not be decoded")
  okOr (providerError "multimodal prompt could not be tokenized") calls.tokens

def prefillMultimodal (calls : MultimodalCalls) (contextSize maxTokens tokens : ℕ) : Except RuntimeError ℕ := do
  ensurePromptFitsContext tokens contextSize maxTokens
  let inputTokens ← tokenTotal "multimodal prompt is too long" tokens
  ensure (calls.batchSize ≤ i32Max) (providerError "model batch size is unsupported")
  ensure (calls.evaluated = true) (providerError "multimodal prompt inference failed")
  ensure (calls.cancelledAfter = false) .cancelled
  return inputTokens

def evaluateMultimodalPrompt (calls : MultimodalCalls) (contextSize maxTokens : ℕ) : Staged ℕ :=
  if calls.cancelled then fail .cancelled
  else do
    stageStarted .tokenize
    let tokens ← finishStage .tokenize (tokenizeMultimodal calls)
    stageStarted .prefill
    finishStage .prefill (prefillMultimodal calls contextSize maxTokens tokens)

inductive Sampled where
  | cancelled
  | endOfGeneration
  | undecodable
  | piece (text : List Char) (prepared decoded : Bool)

structure Decoding where
  events : List StageEvent
  output : List Char := []
  visibleOutput : VisibleOutput := {}
  generatedTokens : ℕ := 0
  firstTokenObserved : Bool := false
  stopped : Bool := false

namespace Decoding

/-- The first piece ends the stage that waits for it. -/
def observe (decoding : Decoding) : Decoding :=
  if decoding.firstTokenObserved then decoding
  else { decoding with firstTokenObserved := true, events := decoding.events ++ [.ended .firstToken none] }

def reveal (decoding : Decoding) (piece : List Char) : Decoding :=
  { decoding with
    output := decoding.output ++ (decoding.visibleOutput.push piece).1.getD []
    visibleOutput := (decoding.visibleOutput.push piece).2 }

def count (decoding : Decoding) : Decoding := { decoding with generatedTokens := decoding.generatedTokens + 1 }

end Decoding

/-- The loop, with the number of tokens that it may still generate. -/
def decodeLoop (isComplete : List Char → Bool) (sample : ℕ → Sampled) :
    ℕ → Decoding → Except RuntimeError Unit × Decoding
  | 0, decoding => (.ok (), decoding)
  | remaining + 1, decoding =>
    match sample decoding.generatedTokens with
    | .cancelled => (.error .cancelled, decoding)
    | .endOfGeneration => (.ok (), { decoding with stopped := true })
    | .undecodable => (.error (providerError "model output could not be decoded"), decoding)
    | .piece text prepared decoded =>
      let shown := decoding.observe.reveal text
      if isComplete shown.output then (.ok (), { shown.count with stopped := true })
      else if prepared = false then (.error (providerError "model output could not be prepared"), shown)
      else if decoded = false then (.error (providerError "model output inference failed"), shown)
      else decodeLoop isComplete sample remaining shown.count

/-- The loop and the rest of the filter's text, on the log of the request. -/
def decode (isComplete : List Char → Bool) (sample : ℕ → Sampled) (maxTokens : ℕ) :
    Staged (Except RuntimeError Unit × Decoding) := fun log =>
  match decodeLoop isComplete sample maxTokens { events := log } with
  | (.error error, decoding) => (.ok (.error error, decoding), decoding.events)
  | (.ok (), decoding) =>
    (.ok (.ok (), { decoding with output := decoding.output ++ decoding.visibleOutput.finish.getD [] }),
      decoding.events)

/-! ## The request -/

structure ChatMessage where
  role : String
  /-- What the checks of the content and the template library make of the message. -/
  prepared : Except RuntimeError Unit

structure ChatRequest where
  messages : List ChatMessage
  maxTokens : Option ℕ
  responseFormat : Option Value

inductive PromptCalls where
  | text (calls : TextCalls)
  /-- The request has images; the model may have no multimodal context. -/
  | images (calls : Option MultimodalCalls)

/-- What a chat reads from outside, and the answers that it gets from llama.cpp. -/
structure ChatCalls where
  /-- The request in the JSON input, if it can be read. -/
  request : Option ChatRequest
  /-- The token limits of the agent and of the provider. -/
  agentMaxTokens : Option ℕ
  defaultMaxTokens : ℕ
  contextSize : ℕ
  grammar : Except RuntimeError Unit
  instructions : Except RuntimeError Unit
  context : Except RuntimeError Unit
  prompt : PromptCalls
  sampler : Except RuntimeError Unit
  sample : ℕ → Sampled

structure ChatResponse where
  text : List Char
  finishReason : String
  promptTokens : ℕ
  completionTokens : ℕ
  /-- The name of the schema and the value. -/
  structured : Option (String × Value)
  deriving DecidableEq

def maxGeneratedTokens : ℕ := 2048

def prepareMessage (message : ChatMessage) : Except RuntimeError Unit := do
  ensure (message.role ∈ ["system", "user", "assistant"]) (providerError "chat message role is unsupported")
  message.prepared

/-- The request up to its prompt, with the response format and the token limit. -/
def readChat (floats : FloatText) (data : InvocationData) (calls : ChatCalls) :
    Except RuntimeError (Option StructuredOutput × ℕ) := do
  let request ← match data with
    | .json _ => okOr (providerError "chat input is invalid") calls.request
    | .binary _ => .error (providerError "chat input must be JSON")
  ensure (request.messages ≠ []) (providerError "at least one chat message is required")
  let format ← request.responseFormat.mapM (parseStructuredOutput floats)
  format.elim (.ok ()) fun _ => calls.grammar
  calls.instructions
  request.messages.forM prepareMessage
  calls.context
  let maxTokens := (request.maxTokens.or calls.agentMaxTokens).getD calls.defaultMaxTokens
  return (format, min (max 1 maxTokens) maxGeneratedTokens)

def evaluatePrompt (calls : ChatCalls) (maxTokens : ℕ) : Staged ℕ :=
  match calls.prompt with
  | .text prompt => evaluateTextPrompt prompt calls.contextSize maxTokens
  | .images none => fail (providerError "local text model does not accept image message content")
  | .images (some prompt) => evaluateMultimodalPrompt prompt calls.contextSize maxTokens

/-- `str::trim`. -/
def trimText (text : List Char) : List Char := (trimStart text).rdropWhile isWhitespace

def structuredValue (fromStr : List Char → Option Value) (output : List Char) (format : StructuredOutput) :
    Except RuntimeError (String × Value) := do
  let value ← okOr (providerError "structured response ended before producing valid JSON") (fromStr (trimText output))
  return (format.name, value)

/-- The report on the first token, if none has come. -/
def unlessObserved (decoding : Decoding) (program : Staged Unit) : Staged Unit :=
  if decoding.firstTokenObserved then pure () else program

def conclude (fromStr : List Char → Option Value) (format : Option StructuredOutput) (inputTokens : ℕ) :
    Except RuntimeError Unit × Decoding → Staged ChatResponse
  | (.error error, decoding) => do
    unlessObserved decoding (stageFailed .firstToken error)
    failStage .decode error
  | (.ok (), decoding) => do
    unlessObserved decoding (stageCompleted .firstToken)
    stageCompleted .decode
    stageStarted .validate
    let structured ← finishStage .validate (format.mapM (structuredValue fromStr decoding.output))
    return ⟨decoding.output, if decoding.stopped then "stop" else "length", inputTokens, decoding.generatedTokens,
      structured⟩

/-- The chat behind its prompt; the parser is `serde_json::from_str`. -/
def generate (fromStr : List Char → Option Value) (sample : ℕ → Sampled) (format : Option StructuredOutput)
    (maxTokens inputTokens : ℕ) : Staged ChatResponse := do
  stageStarted .firstToken
  stageStarted .decode
  let decoded ← decode (fun output => format.isSome && (fromStr (trimText output)).isSome) sample maxTokens
  conclude fromStr format inputTokens decoded

def generateChat (floats : FloatText) (fromStr : List Char → Option Value) (data : InvocationData) (calls : ChatCalls) :
    Staged ChatResponse := do
  let request ← Effect.lift (readChat floats data calls)
  let inputTokens ← evaluatePrompt calls request.2
  Effect.lift calls.sampler
  generate fromStr calls.sample request.1 request.2 inputTokens

end Vifu.Llama
