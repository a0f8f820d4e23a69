import Vifu.Gateway.Relay.Connection
import Vifu.Llama.Stages

/-!
# The stages of the providers

The runs of the llama provider, of the resident Whisper provider, of the HTTP provider and of the gateway provider that
loads its model on the first request.  Most exits end every stage that was started.  Those that do not are named: a load
that is cancelled, a Whisper worker that is left behind in the middle of a stage, and three of its errors.
-/

namespace Vifu.App

open Foundation
open Vifu.Llama (Staged StageEvent stageStarted stageCompleted finishStage LlamaCalls LlamaOutput llamaInvoke
  passes_stage closed_llamaInvoke)
open Vifu.Runtime (RuntimeError ProviderStage InvocationData FloatText Value validateOpenaiChatResponse
  validateOpenaiEmbeddingResponse validateTranscriptionResponse)
open Vifu.Gateway (GatewayProviderError)

abbrev StagedWith (ε α : Type) := Reports ProviderStage (Option String) ε α

/-! ## The resident Whisper provider -/

structure WhisperCalls where
  locked : Bool
  resident : Bool
  pathIsText : Bool
  loaded : Except String Unit
  samples : Except String Unit
  state : Except String Unit
  transcribed : Except String Unit
  segments : Except String String

def loadWhisper (calls : WhisperCalls) : StagedWith String Unit :=
  if calls.resident then pure ()
  else do
    Effect.lift (ensure (calls.pathIsText = true) "Whisper model path is not valid UTF-8")
    match calls.loaded with
    | .ok () => pure ()
    | .error error =>
      let message := "Whisper model could not be loaded: " ++ error
      report (.ended .load (some message))
      fail message

def decodeWhisper (calls : WhisperCalls) : StagedWith String String := do
  report (.began .decode)
  Effect.lift calls.state
  match calls.transcribed with
  | .error error =>
    let message := "Whisper transcription failed: " ++ error
    report (.ended .decode (some message))
    fail message
  | .ok () =>
    let text ← Effect.lift calls.segments
    report (.ended .decode none)
    return text

def transcribeWithResidentWhisper (calls : WhisperCalls) : StagedWith String String := do
  Effect.lift (ensure (calls.locked = true) "Whisper model context is unavailable")
  report (.began .load)
  loadWhisper calls
  report (.ended .load none)
  Effect.lift calls.samples
  decodeWhisper calls

inductive WorkerWait (calls : WhisperCalls) where
  | finished
  /-- The cancellation comes when the worker has made some of its reports. -/
  | cancelled (reports : ℕ) (made : reports ≤ (transcribeWithResidentWhisper calls []).2.length)

structure LocalWhisperCalls where
  name : String
  data : InvocationData
  cancelledBefore : Bool
  worker : WhisperCalls
  wait : WorkerWait worker
  cancelledAfter : Bool

def isBinary : InvocationData → Bool
  | .binary _ => true
  | .json _ => false

def awaitWorker (calls : LocalWhisperCalls) : Staged String :=
  match calls.wait with
  | .finished => Effect.mapError (.provider calls.name) (transcribeWithResidentWhisper calls.worker)
  | .cancelled reports _ => fun log =>
    (.error .cancelled, log ++ (transcribeWithResidentWhisper calls.worker []).2.take reports)

def checkTranscription (name text : String) : Staged Value := do
  let data := .object [("text", .string text)]
  stageStarted .validate
  match validateTranscriptionResponse data with
  | .error error =>
    report (.ended .validate (some error))
    fail (.provider name error)
  | .ok _ =>
    stageCompleted .validate
    return data

def localWhisperInvoke (calls : LocalWhisperCalls) : Staged Value := do
  Effect.lift (ensure (isBinary calls.data = true) (.invalidDefinition "transcription capability requires binary input"))
  Effect.lift (ensure (calls.cancelledBefore = false) .cancelled)
  stageStarted .queue
  stageCompleted .queue
  let text ← awaitWorker calls
  Effect.lift (ensure (calls.cancelledAfter = false) .cancelled)
  checkTranscription calls.name text

/-! ## The HTTP provider -/

inductive JsonProviderError where
  | provider (message : String)
  | malformedResponse (message : String)

/-- A failed check ends its stage with the error that is returned. -/
def validationError {α : Type} (name message : String) : Staged α :=
  Llama.failStage .validate (.provider name message)

def providerJsonResult (name : String) : Except JsonProviderError Value → Staged Value
  | .ok response => pure response
  | .error (.provider message) => fail (.provider name message)
  | .error (.malformedResponse message) => do
    stageStarted .validate
    validationError name message

def validateWithEvents (name : String) (validated : Except String Value) : Staged Unit := do
  stageStarted .validate
  match validated with
  | .ok _ => stageCompleted .validate
  | .error message => validationError name message

inductive HttpRoute where
  | openAiChat (response : Except JsonProviderError Value)
  | openAiEmbedding (response : Except JsonProviderError Value)
  | elevenLabsSpeech (response : Except String (List UInt8))
  | openAiTranscription (response : Except JsonProviderError Value)
  | localWhisper (text : Except String String)

structure HttpCalls where
  name : String
  capability : String
  route : Option HttpRoute
  data : InvocationData
  cancelledBefore : Bool
  cancelledBetween : Bool
  cancelledAfter : Bool

def requireInput (calls : HttpCalls) (binary : Bool) (message : String) : Staged Unit :=
  Effect.lift (ensure (isBinary calls.data = binary) (.invalidDefinition message))

def checkedResponse (calls : HttpCalls) (validate : Value → Except String Value) (response : Value) :
    Staged InvocationData := do
  Effect.lift (ensure (calls.cancelledBetween = false) .cancelled)
  validateWithEvents calls.name (validate response)
  return .json response

def routeResponse (calls : HttpCalls) : HttpRoute → Staged InvocationData
  | .openAiChat response => do
    requireInput calls false "chat capability requires JSON input"
    let data ← providerJsonResult calls.name response
    checkedResponse calls validateOpenaiChatResponse data
  | .openAiEmbedding response => do
    requireInput calls false "embedding capability requires JSON input"
    let data ← providerJsonResult calls.name response
    checkedResponse calls validateOpenaiEmbeddingResponse data
  | .elevenLabsSpeech response => do
    requireInput calls false "speech capability requires JSON input"
    let body ← Effect.lift (response.mapError (.provider calls.name))
    return .binary body
  | .openAiTranscription response => do
    requireInput calls true "transcription capability requires binary input"
    let data ← providerJsonResult calls.name response
    checkedResponse calls validateTranscriptionResponse data
  | .localWhisper text => do
    requireInput calls true "transcription capability requires binary input"
    let text ← Effect.lift (text.mapError (.provider calls.name))
    checkedResponse calls validateTranscriptionResponse (.object [("text", .string text)])

def httpInvoke (calls : HttpCalls) : Staged InvocationData := do
  let route ← Effect.lift (okOr (.capabilityUnavailable calls.name calls.capability) calls.route)
  Effect.lift (ensure (calls.cancelledBefore = false) .cancelled)
  let response ← routeResponse calls route
  Effect.lift (ensure (calls.cancelledAfter = false) .cancelled)
  return response

inductive ModelWait where
  | cancelled
  | failed (error : String)
  | loaded
  deriving DecidableEq

structure LazyCalls where
  wait : ModelWait
  /-- The input as `gateway_invocation_data` reads it. -/
  input : Except String InvocationData
  llama : LlamaCalls

def awaitModel : ModelWait → StagedWith GatewayProviderError Unit
  | .cancelled => fail ⟨.failed, "local llama request cancelled"⟩
  | .failed error => do
    report (.ended .load (some error))
    fail ⟨.failed, error⟩
  | .loaded => pure ()

def gatewayError : RuntimeError → GatewayProviderError
  | .timeout timeoutMs => ⟨.timedOut, RuntimeError.publicMessage (.timeout timeoutMs)⟩
  | error => ⟨.failed, error.publicMessage⟩

/-- `invoke_with_events_and_cancellation`, with that of the provider in the process. -/
def lazyInvoke (floats : FloatText) (fromStr : List Char → Option Value) (calls : LazyCalls) :
    StagedWith GatewayProviderError LlamaOutput := do
  report (.began .load)
  awaitModel calls.wait
  report (.ended .load none)
  Effect.lift (ensure (calls.llama.capability ∈ ["chat", "embedding"])
    ⟨.failed, "in-process provider does not support capability " ++ calls.llama.capability⟩)
  let data ← Effect.lift (calls.input.mapError (⟨.failed, ·⟩))
  Effect.mapError gatewayError (llamaInvoke floats fromStr { calls.llama with data := data })

inductive ProviderRun where
  | llama (calls : LlamaCalls)
  | localWhisper (calls : LocalWhisperCalls)
  | http (calls : HttpCalls)
  | lazyLlama (calls : LazyCalls)

def ProviderRun.events (floats : FloatText) (fromStr : List Char → Option Value) : ProviderRun → List StageEvent
  | .llama calls => (llamaInvoke floats fromStr calls []).2
  | .localWhisper calls => (localWhisperInvoke calls []).2
  | .http calls => (httpInvoke calls []).2
  | .lazyLlama calls => (lazyInvoke floats fromStr calls []).2

def WhisperCalls.Loads (calls : WhisperCalls) : Prop :=
  calls.locked = true ∧ (calls.resident = true ∨ calls.pathIsText = true ∧ calls.loaded.isOk = true)

/-- The worker meets none of the errors that leave a stage behind: a path that is no text, a state that cannot be
    created, and a segment that cannot be read. -/
def WhisperCalls.EndsStages (calls : WhisperCalls) : Prop :=
  (calls.locked = true → calls.resident = true ∨ calls.pathIsText = true) ∧
    (calls.Loads → calls.samples.isOk = true →
      calls.state.isOk = true ∧ (calls.transcribed.isOk = true → calls.segments.isOk = true))

/-- A worker is left behind between two stages. -/
def WorkerWait.EndsStages {calls : WhisperCalls} : WorkerWait calls → Prop
  | .finished => calls.EndsStages
  | .cancelled reports _ => reports % 2 = 0

def ProviderRun.EndsStages : ProviderRun → Prop
  | .llama _ | .http _ => True
  | .localWhisper calls => isBinary calls.data = true → calls.cancelledBefore = false → calls.wait.EndsStages
  | .lazyLlama calls => calls.wait ≠ .cancelled

/-! ## The Whisper worker -/

def workerReports (loaded decoded : Option String) : List StageEvent :=
  [.began .load, .ended .load loaded, .began .decode, .ended .decode decoded]

variable {log : List StageEvent}

theorem open_workerReports (isOpen : Open ∅ log) (loaded decoded : Option String) {count : ℕ}
    (atMost : count ≤ 4) :
    ∃ opened, Open opened (log ++ (workerReports loaded decoded).take count) ∧ (opened = ∅ ↔ count % 2 = 0) := by
  have first := isOpen.began (Finset.notMem_empty ProviderStage.load)
  have second := first.ended (Finset.mem_insert_self _ _) loaded
  have third := second.began (Finset.notMem_empty ProviderStage.decode)
  have fourth := third.ended (Finset.mem_insert_self _ _) decoded
  obtain rfl | rfl | rfl | rfl | rfl : count = 0 ∨ count = 1 ∨ count = 2 ∨ count = 3 ∨ count = 4 := by omega
  · exact ⟨∅, by simpa using isOpen, by simp⟩
  · exact ⟨_, by simpa [workerReports] using first, by decide⟩
  · exact ⟨_, by simpa [workerReports] using second, by decide⟩
  · exact ⟨_, by simpa [workerReports] using third, by decide⟩
  · exact ⟨_, by simpa [workerReports] using fourth, by decide⟩

theorem decode_reports (calls : WhisperCalls) (log : List StageEvent) : ∃ decoded count, count ≤ 2 ∧
      ((Effect.lift calls.samples >>= fun _ => decodeWhisper calls) log).2 =
        log ++ ([.began .decode, .ended .decode decoded] : List StageEvent).take count ∧
      (count % 2 = 0 ↔ (calls.samples.isOk = true →
        calls.state.isOk = true ∧ (calls.transcribed.isOk = true → calls.segments.isOk = true))) ∧
      (((Effect.lift calls.samples >>= fun _ => decodeWhisper calls) log).1.isOk = true → count = 2) := by
  obtain ⟨locked, resident, pathIsText, loaded, samples, state, transcribed, segments⟩ := calls
  cases samples with
  | error error =>
    exact ⟨none, 0, by omega, (List.append_nil log).symm, by simp [Except.isOk, Except.toBool], fun ok => by cases ok⟩
  | ok samples =>
    cases state with
    | error error => exact ⟨none, 1, by omega, rfl, by simp [Except.isOk, Except.toBool], fun ok => by cases ok⟩
    | ok state =>
      cases transcribed with
      | error error =>
        exact ⟨some _, 2, by omega, List.append_assoc log _ _, by simp [Except.isOk, Except.toBool], fun _ => rfl⟩
      | ok transcribed =>
        cases segments with
        | error error => exact ⟨none, 1, by omega, rfl, by simp [Except.isOk, Except.toBool], fun ok => by cases ok⟩
        | ok text =>
          exact ⟨none, 2, by omega, List.append_assoc log _ _, by simp [Except.isOk, Except.toBool], fun _ => rfl⟩

/-- The worker's reports: an odd number of them when it meets one of the errors that leave a stage behind. -/
theorem transcribe_reports (calls : WhisperCalls) (log : List StageEvent) : ∃ loaded decoded count, count ≤ 4 ∧
      (transcribeWithResidentWhisper calls log).2 = log ++ (workerReports loaded decoded).take count ∧
      (count % 2 = 0 ↔ calls.EndsStages) ∧
      ((transcribeWithResidentWhisper calls log).1.isOk = true → count = 4) := by
  -- behind a load that has ended the other phase decides
  have behindLoad : calls.Loads → transcribeWithResidentWhisper calls log =
      (Effect.lift calls.samples >>= fun _ => decodeWhisper calls) (log ++ [.began .load] ++ [.ended .load none]) →
      ∃ loaded decoded count, count ≤ 4 ∧
        (transcribeWithResidentWhisper calls log).2 = log ++ (workerReports loaded decoded).take count ∧
        (count % 2 = 0 ↔ calls.EndsStages) ∧
        ((transcribeWithResidentWhisper calls log).1.isOk = true → count = 4) := by
    intro loads same
    obtain ⟨decoded, count, atMost, marks, ends, returns⟩ :=
      decode_reports calls (log ++ [.began .load] ++ [.ended .load none])
    refine ⟨none, decoded, count + 2, by omega, ?_, ?_, fun isOk => ?_⟩
    · rw [same, marks]
      simp [workerReports]
    · have opened : calls.locked = true → calls.resident = true ∨ calls.pathIsText = true :=
        fun _ => loads.2.imp id fun path => path.1
      rw [Nat.add_mod_right, ends]
      exact ⟨fun decodes => ⟨opened, fun _ => decodes⟩, fun both => both.2 loads⟩
    · have isTwo := returns (by rwa [same] at isOk)
      omega
  obtain ⟨locked, resident, pathIsText, loaded, samples, state, transcribed, segments⟩ := calls
  cases locked with
  | false =>
    exact ⟨none, none, 0, by omega, (List.append_nil log).symm, by simp [WhisperCalls.EndsStages, WhisperCalls.Loads],
      fun ok => by cases ok⟩
  | true =>
    cases resident with
    | true => exact behindLoad ⟨rfl, Or.inl rfl⟩ rfl
    | false =>
      cases pathIsText with
      | false => exact ⟨none, none, 1, by omega, rfl, by simp [WhisperCalls.EndsStages], fun ok => by cases ok⟩
      | true =>
        cases loaded with
        | error error =>
          exact ⟨some _, none, 2, by omega, List.append_assoc log _ _,
            by simp [WhisperCalls.EndsStages, WhisperCalls.Loads, Except.isOk, Except.toBool], fun ok => by cases ok⟩
        | ok loaded => exact behindLoad ⟨rfl, Or.inr ⟨rfl, rfl⟩⟩ rfl

theorem closed_providerJsonResult (name : String) (response : Except JsonProviderError Value) :
    Closed (providerJsonResult name response) := by
  cases response with
  | ok response => exact passes_pure _
  | error error =>
    cases error with
    | provider message => exact passes_fail _
    | malformedResponse message =>
      exact passes_bind (passes_began (Finset.notMem_empty _)) fun _ => Llama.passes_failStage (by decide) _

theorem closed_validateWithEvents (name : String) (validated : Except String Value) :
    Closed (validateWithEvents name validated) := by
  refine passes_bind (passes_began (Finset.notMem_empty _)) fun _ => ?_
  cases validated with
  | ok metadata => exact passes_ended (by decide) none
  | error message => exact Llama.passes_failStage (by decide) _

theorem closed_checkedResponse (calls : HttpCalls) (validate : Value → Except String Value) (response : Value) :
    Closed (checkedResponse calls validate response) :=
  passes_bind (passes_lift _) fun _ => passes_bind (closed_validateWithEvents _ _) fun _ => passes_pure _

theorem closed_routeResponse (calls : HttpCalls) (route : HttpRoute) : Closed (routeResponse calls route) := by
  cases route with
  | openAiChat response | openAiEmbedding response | openAiTranscription response =>
    exact passes_bind (passes_lift _) fun _ => passes_bind (closed_providerJsonResult _ _) fun data =>
      closed_checkedResponse calls _ data
  | elevenLabsSpeech response =>
    exact passes_bind (passes_lift _) fun _ => passes_bind (passes_lift _) fun body => passes_pure _
  | localWhisper text =>
    exact passes_bind (passes_lift _) fun _ => passes_bind (passes_lift _) fun text => closed_checkedResponse calls _ _

theorem closed_httpInvoke (calls : HttpCalls) : Closed (httpInvoke calls) := by
  refine passes_bind (passes_lift _) fun route => passes_bind (passes_lift _) fun _ => ?_
  exact passes_bind (closed_routeResponse calls route) fun response => passes_bind (passes_lift _) fun _ => passes_pure _

theorem closed_checkTranscription (name text : String) : Closed (checkTranscription name text) := by
  refine passes_bind (passes_began (Finset.notMem_empty _)) fun _ => ?_
  cases validateTranscriptionResponse (.object [("text", .string text)]) with
  | error error => exact passes_bind (passes_ended (by decide) _) fun _ => passes_fail _
  | ok metadata => exact passes_bind (passes_ended (by decide) none) fun _ => passes_pure _

theorem passes_awaitModel {wait : ModelWait} (notCancelled : wait ≠ .cancelled) :
    Passes (insert .load ∅) (awaitModel wait) (fun _ => insert .load ∅) ∅ := by
  cases wait with
  | cancelled => exact absurd rfl notCancelled
  | failed error => exact passes_bind (passes_ended (by decide) _) fun _ => passes_fail _
  | loaded => exact passes_pure ()

theorem closed_lazyInvoke (floats : FloatText) (fromStr : List Char → Option Value) (calls : LazyCalls)
    (notCancelled : calls.wait ≠ .cancelled) : Closed (lazyInvoke floats fromStr calls) := by
  refine passes_bind (passes_began (Finset.notMem_empty _)) fun _ => ?_
  refine passes_bind (passes_awaitModel notCancelled) fun _ => passes_bind (passes_ended (by decide) none) fun _ => ?_
  refine passes_bind (passes_lift _) fun _ => passes_bind (passes_lift _) fun data => ?_
  exact (closed_llamaInvoke floats fromStr _).mapError gatewayError

/-! ## The resident Whisper provider's runs -/

theorem bracketed_awaitWorker (calls : LocalWhisperCalls) (isOpen : Open ∅ log) :
    Bracketed ((awaitWorker calls >>= fun text => Effect.lift (ensure (calls.cancelledAfter = false) .cancelled) >>=
      fun _ => checkTranscription calls.name text) log).2 ↔ calls.wait.EndsStages := by
  obtain ⟨name, data, cancelledBefore, worker, wait, cancelledAfter⟩ := calls
  cases wait with
  | cancelled reports made =>
    show Bracketed (log ++ (transcribeWithResidentWhisper worker []).2.take reports) ↔ reports % 2 = 0
    obtain ⟨loaded, decoded, count, atMost, marks, -⟩ := transcribe_reports worker []
    rw [List.nil_append] at marks
    rw [marks, List.length_take] at made
    obtain ⟨opened, reached, isEmpty⟩ := @open_workerReports log isOpen loaded decoded reports (by omega)
    rw [marks, List.take_take, min_eq_left (made.trans (min_le_left _ _)), reached.bracketed_iff, isEmpty]
  | finished =>
    show _ ↔ worker.EndsStages
    obtain ⟨loaded, decoded, count, atMost, marks, ends, returns⟩ := transcribe_reports worker log
    obtain ⟨opened, reached, isEmpty⟩ := open_workerReports isOpen loaded decoded atMost
    rw [← marks] at reached
    cases ran : transcribeWithResidentWhisper worker log with
    | mk outcome after =>
      rw [ran] at reached returns
      have awaited : awaitWorker ⟨name, data, cancelledBefore, worker, .finished, cancelledAfter⟩ log =
          (outcome.mapError (.provider name), after) := by
        show Effect.mapError (RuntimeError.provider name) (transcribeWithResidentWhisper worker) log = _
        rw [Effect.mapError, ran]
      cases outcome with
      | error error =>
        rw [Effect.bind_of_error awaited, reached.bracketed_iff, isEmpty, ends]
      | ok text =>
        have isFour := returns rfl
        have closed : opened = ∅ := isEmpty.mpr (by omega)
        have rest : Closed (Effect.lift (ensure (cancelledAfter = false) .cancelled) >>=
            fun _ => checkTranscription name text) :=
          passes_bind (passes_lift _) fun _ => closed_checkTranscription name text
        rw [Effect.bind_of_ok awaited, iff_true_right (ends.mp (by omega))]
        subst closed
        exact rest.bracketed_after reached

/-- A request whose cancellation comes while the model is loaded. -/
def cancelledLoad : LazyCalls where
  wait := .cancelled
  input := .ok (.json .null)
  llama := ⟨"chat", .json .null, .ok (), ⟨none, none, 256, 4096, .ok (), .ok (), .ok (), .images none, .ok (),
    fun _ => .endOfGeneration⟩, ⟨none, .ok [], 4096⟩, false⟩

end Vifu.App
