import Mathlib.Data.Finset.Basic
import Vifu.Llama.Generation

/-!
# The stages of the llama provider

A chat and an embedding request run as a blocking task behind a queue.  Whatever call fails, a request ends every stage
that it has started, also one that is cancelled: the provider waits for the task before it returns.
-/

namespace Vifu.Llama

open Foundation
open Vifu.Runtime (RuntimeError ProviderStage InvocationData FloatText Value)

/-! ## Embeddings -/

structure EmbeddingRequest where
  encodingFormat : Option String
  dimensions : Option ℕ

structure SequenceCalls where
  tokens : ℕ
  cancelled : Bool
  prepared : Bool
  created : Bool
  inferred : Bool
  /-- The number of dimensions of the normalized embedding. -/
  embedding : Except RuntimeError ℕ

structure EmbeddingCalls where
  request : Option EmbeddingRequest
  sequences : Except RuntimeError (List SequenceCalls)
  contextSize : ℕ

def maxEmbeddingInputs : ℕ := 256

def readEmbedding (data : InvocationData) (calls : EmbeddingCalls) : Except RuntimeError EmbeddingRequest := do
  let request ← match data with
    | .json _ => okOr (providerError "embedding input is invalid") calls.request
    | .binary _ => .error (providerError "embedding input must be JSON")
  ensure (∀ format ∈ request.encodingFormat, format ∈ ["float", "base64"])
    (providerError "local embeddings support encoding_format float or base64")
  return request

def inferSequence (request : EmbeddingRequest) (calls : SequenceCalls) : Except RuntimeError ℕ := do
  ensure (calls.cancelled = false) .cancelled
  ensure (calls.prepared = true) (providerError "embedding input could not be prepared")
  ensure (calls.created = true) (providerError "embedding context could not be created")
  ensure (calls.inferred = true) (providerError "embedding inference failed")
  let dimensions ← calls.embedding
  ensure (∀ requested ∈ request.dimensions, requested = dimensions)
    (providerError "requested embedding dimensions do not match the local model")
  return dimensions

def inferSequences (request : EmbeddingRequest) (contextSize : ℕ) (sequences : List SequenceCalls) :
    Except RuntimeError (List ℕ) := do
  ensure (∀ calls ∈ sequences, calls.tokens ≤ contextSize)
    (providerError "embedding input exceeds the configured context size")
  sequences.mapM (inferSequence request)

def generateEmbeddings (data : InvocationData) (calls : EmbeddingCalls) : Staged (List ℕ) := do
  let request ← Effect.lift (readEmbedding data calls)
  stageStarted .tokenize
  match calls.sequences with
  | .error error => failStage .tokenize error
  | .ok sequences =>
    if sequences = [] then failStage .tokenize (providerError "at least one embedding input is required")
    else if maxEmbeddingInputs < sequences.length then failStage .tokenize (providerError "too many embedding inputs")
    else
      stageCompleted .tokenize
      stageStarted .prefill
      let embeddings ← finishStage .prefill (inferSequences request calls.contextSize sequences)
      stageStarted .validate
      stageCompleted .validate
      return embeddings

inductive LlamaOutput where
  | chat (response : ChatResponse)
  | embeddings (dimensions : List ℕ)

structure LlamaCalls where
  capability : String
  data : InvocationData
  /-- The wait for a slot ends with it, with the cancellation or with the queue closed. -/
  slot : Except RuntimeError Unit
  chat : ChatCalls
  embedding : EmbeddingCalls
  /-- The cancellation comes before the task has ended. -/
  cancelled : Bool

def llamaTask (floats : FloatText) (fromStr : List Char → Option Value) (calls : LlamaCalls) : Staged LlamaOutput :=
  if calls.capability = "chat" then do
    let response ← generateChat floats fromStr calls.data calls.chat
    return .chat response
  else if calls.capability = "embedding" then do
    let dimensions ← generateEmbeddings calls.data calls.embedding
    return .embeddings dimensions
  else fail (providerError ("capability " ++ calls.capability ++ " is not supported"))

/-- `invoke_with_events`; a cancelled request waits for the task and drops its result. -/
def llamaInvoke (floats : FloatText) (fromStr : List Char → Option Value) (calls : LlamaCalls) : Staged LlamaOutput := do
  stageStarted .queue
  finishStage .queue calls.slot
  let result ← attempt (llamaTask floats fromStr calls)
  Effect.lift (if calls.cancelled then .error .cancelled else result)

section

variable {α β : Type} {stage : ProviderStage} {opened : Finset ProviderStage}

theorem passes_failStage (isOpened : stage ∈ opened) (error : RuntimeError) {returned : α → Finset ProviderStage} :
    Passes opened (failStage stage error : Staged α) returned (opened.erase stage) :=
  passes_bind (passes_ended isOpened _) fun _ => passes_fail error

theorem passes_finishStage (isOpened : stage ∈ opened) (result : Except RuntimeError α) :
    Passes opened (finishStage stage result) (fun _ => opened.erase stage) (opened.erase stage) := by
  cases result with
  | error error => exact passes_failStage isOpened error
  | ok value => exact passes_bind (passes_ended isOpened _) fun _ => passes_pure value

theorem passes_stage (closed : stage ∉ opened) (result : Except RuntimeError α) {next : α → Staged β}
    {returned : β → Finset ProviderStage} (nextPasses : ∀ value, Passes opened (next value) returned opened) :
    Passes opened (stageStarted stage >>= fun _ => finishStage stage result >>= next) returned opened := by
  refine passes_bind (passes_began closed) fun _ => passes_bind ?_ nextPasses
  have finishes := passes_finishStage (Finset.mem_insert_self stage opened) result
  rwa [Finset.erase_insert closed] at finishes

end

theorem closed_evaluateTextPrompt (calls : TextCalls) (contextSize maxTokens : ℕ) :
    Closed (evaluateTextPrompt calls contextSize maxTokens) := by
  refine passes_bind (passes_began (Finset.notMem_empty _)) fun _ => ?_
  cases calls.tokens with
  | none => exact passes_failStage (by decide) _
  | some tokens =>
    show Passes _ (if tokens = 0 then _ else _) _ _
    split
    · exact passes_failStage (by decide) _
    · refine passes_bind (passes_ended (by decide) _) fun _ => passes_bind (passes_began (by decide)) fun _ => ?_
      exact passes_finishStage (by decide) _

theorem closed_evaluateMultimodalPrompt (calls : MultimodalCalls) (contextSize maxTokens : ℕ) :
    Closed (evaluateMultimodalPrompt calls contextSize maxTokens) := by
  rw [evaluateMultimodalPrompt]
  split
  · exact passes_fail _
  · refine passes_stage (Finset.notMem_empty _) _ fun tokens => passes_bind (passes_began (Finset.notMem_empty _)) fun _ => ?_
    exact passes_finishStage (by decide) _

theorem closed_evaluatePrompt (calls : ChatCalls) (maxTokens : ℕ) : Closed (evaluatePrompt calls maxTokens) := by
  rw [evaluatePrompt]
  cases calls.prompt with
  | text prompt => exact closed_evaluateTextPrompt _ _ _
  | images prompt =>
    cases prompt with
    | none => exact passes_fail _
    | some prompt => exact closed_evaluateMultimodalPrompt _ _ _

/-! ## The loop -/

/-- The stages that are open while the loop runs. -/
def Decoding.opened (decoding : Decoding) : Finset ProviderStage :=
  if decoding.firstTokenObserved then {.decode} else {.firstToken, .decode}

theorem Decoding.open_observe {decoding : Decoding} (isOpen : Open decoding.opened decoding.events) :
    Open decoding.observe.opened decoding.observe.events := by
  rw [Decoding.observe]
  split
  next => exact isOpen
  next unobserved =>
    rw [Decoding.opened, if_neg unobserved] at isOpen
    exact isOpen.ended (by decide) none

theorem decodeLoop_open (isComplete : List Char → Bool) (sample : ℕ → Sampled) (remaining : ℕ) {decoding : Decoding}
    (isOpen : Open decoding.opened decoding.events) :
    Open (decodeLoop isComplete sample remaining decoding).2.opened
      (decodeLoop isComplete sample remaining decoding).2.events := by
  induction remaining generalizing decoding with
  | zero => exact isOpen
  | succ remaining ih =>
    rw [decodeLoop]
    cases sample decoding.generatedTokens with
    | cancelled => exact isOpen
    | endOfGeneration => exact isOpen
    | undecodable => exact isOpen
    | piece text prepared decoded =>
      have observed := Decoding.open_observe isOpen
      -- the text and the count of the tokens have no part in the stages
      dsimp only
      split
      · exact observed
      · split
        · exact observed
        · split
          · exact observed
          · exact ih observed

theorem passes_decode (isComplete : List Char → Bool) (sample : ℕ → Sampled) (maxTokens : ℕ) :
    Passes {.firstToken, .decode} (decode isComplete sample maxTokens) (fun decoded => decoded.2.opened) ∅ := by
  intro log isOpen
  have ends := @decodeLoop_open isComplete sample maxTokens { events := log } isOpen
  rw [decode]
  cases ran : decodeLoop isComplete sample maxTokens { events := log } with
  | mk result final =>
    rw [ran] at ends
    cases result <;> exact ends

theorem passes_unlessObserved (decoding : Decoding) (outcome : Option String) {failed : Finset ProviderStage} :
    Passes decoding.opened (unlessObserved decoding (report (.ended .firstToken outcome))) (fun _ => {.decode}) failed := by
  rw [unlessObserved, Decoding.opened]
  split
  · exact passes_pure ()
  · exact passes_ended (by decide) outcome

theorem passes_conclude (fromStr : List Char → Option Value) (format : Option StructuredOutput) (inputTokens : ℕ)
    (decoded : Except RuntimeError Unit × Decoding) :
    Passes decoded.2.opened (conclude fromStr format inputTokens decoded) (fun _ => ∅) ∅ := by
  obtain ⟨result, decoding⟩ := decoded
  cases result with
  | error error => exact passes_bind (passes_unlessObserved decoding _) fun _ => passes_failStage (by decide) error
  | ok done =>
    refine passes_bind (passes_unlessObserved decoding none) fun _ => passes_bind (passes_ended (by decide) none) fun _ => ?_
    exact passes_stage (Finset.notMem_empty _) _ fun structured => passes_pure _

theorem closed_generateChat (floats : FloatText) (fromStr : List Char → Option Value) (data : InvocationData)
    (calls : ChatCalls) : Closed (generateChat floats fromStr data calls) := by
  refine passes_bind (passes_lift _) fun request => passes_bind (closed_evaluatePrompt calls request.2) fun tokens => ?_
  refine passes_bind (passes_lift _) fun _ => passes_bind (passes_began (Finset.notMem_empty _)) fun _ => ?_
  refine passes_bind (passes_began (by decide)) fun _ => passes_bind ?_ fun decoded => passes_conclude _ _ _ decoded
  have both : insert .decode (insert .firstToken ∅) = ({.firstToken, .decode} : Finset ProviderStage) := by decide
  rw [both]
  exact passes_decode _ _ _

theorem closed_generateEmbeddings (data : InvocationData) (calls : EmbeddingCalls) :
    Closed (generateEmbeddings data calls) := by
  refine passes_bind (passes_lift _) fun request => passes_bind (passes_began (Finset.notMem_empty _)) fun _ => ?_
  cases calls.sequences with
  | error error => exact passes_failStage (by decide) error
  | ok sequences =>
    show Passes _ (if sequences = [] then _ else if maxEmbeddingInputs < sequences.length then _ else _) _ _
    split
    · exact passes_failStage (by decide) _
    · split
      · exact passes_failStage (by decide) _
      · refine passes_bind (passes_ended (by decide) none) fun _ => ?_
        refine passes_stage (Finset.notMem_empty _) _ fun embeddings => ?_
        exact passes_bind (passes_began (Finset.notMem_empty _)) fun _ =>
          passes_bind (passes_ended (by decide) none) fun _ => passes_pure _

theorem closed_llamaTask (floats : FloatText) (fromStr : List Char → Option Value) (calls : LlamaCalls) :
    Closed (llamaTask floats fromStr calls) := by
  rw [llamaTask]
  split
  · exact passes_bind (closed_generateChat floats fromStr calls.data calls.chat) fun _ => passes_pure _
  · split
    · exact passes_bind (closed_generateEmbeddings calls.data calls.embedding) fun _ => passes_pure _
    · exact passes_fail _

theorem closed_llamaInvoke (floats : FloatText) (fromStr : List Char → Option Value) (calls : LlamaCalls) :
    Closed (llamaInvoke floats fromStr calls) := by
  refine passes_stage (Finset.notMem_empty _) _ fun _ => ?_
  exact passes_bind (closed_llamaTask floats fromStr calls).attempt fun result => passes_lift _

end Vifu.Llama
