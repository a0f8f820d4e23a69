import Mathlib.Data.Finset.Dedup
import Mathlib.Data.Finset.Filter
import Vifu.Gateway.Relay.Connection
import Vifu.Gateway.RouteOverrides
import Vifu.Runtime.Registry

/-!
# The optimization controller

The controller keeps the providers that the gateway serves and the latest answered request of each route and
capability, and from these it admits the plans that send a route to another provider.
-/

namespace Vifu.App

open Foundation
open Vifu.Runtime hiding u64Max saturatingAdd
open Vifu.Gateway (AgentDescriptor GatewayInvocationTerminal SessionRouteOverrides Uuid)

def maxCapturedCases : ℕ := 128
def maxCapturedBytes : ℕ := 24 * 1024 * 1024
def maxSingleCaptureBytes : ℕ := 6 * 1024 * 1024
def maxInFlightCaptures : ℕ := 16
def maxInFlightCaptureBytes : ℕ := 8 * 1024 * 1024

/-- The entries of a `BTreeMap` in the order of their keys. -/
def inOrder {V : Type} (table : HashMap String V) : List (String × V) :=
  (table.entries.map fun entry => (entry.1, entry.2)).insertionSort fun first second => first.1 ≤ second.1

/-! ## Providers -/

/-- A provider instance, by its `id()`. -/
structure AgentGatewayProvider where
  id : String
  deriving DecidableEq

structure ConfiguredProvider where
  provider : AgentGatewayProvider
  displayName : String
  capabilities : Finset String
  models : Finset String
  replaySafe : Bool
  replayCapabilities : Finset String
  localKind : Option String

def descriptorProviderKey (agent : AgentDescriptor) : String :=
  let declared := ((agent.metadata.get? "providerKey").bind Value.asStr).map trim
  (declared.filter fun key => !key.isEmpty).getD agent.id

/-- The texts among `capabilities` in the metadata of an agent. -/
def declaredCapabilities (agent : AgentDescriptor) : List String :=
  (((agent.metadata.get? "capabilities").bind Value.asArray).getD []).filterMap Value.asStr

/-- The texts among the values of `models` and in `model`. -/
def declaredModels (agent : AgentDescriptor) : List String :=
  let models := match agent.metadata.get? "models" with
    | some (.object fields) => fields.map Prod.snd
    | _ => []
  (models ++ (agent.metadata.get? "model").toList).filterMap Value.asStr

def described (agents : List AgentDescriptor) (providerId : String) : List AgentDescriptor :=
  agents.filter fun agent => descriptorProviderKey agent == providerId

/-- What `configure_inner` makes of one provider; a provider that no agent names is left out. -/
def configuredProvider (agents : List AgentDescriptor) (provider : AgentGatewayProvider) :
    Option ConfiguredProvider :=
  match described agents provider.id with
  | [] => none
  | first :: rest =>
    let descriptors := first :: rest
    let capabilities := (descriptors.flatMap declaredCapabilities).toFinset
    let localKind := descriptors.findSome? fun agent =>
      (agent.metadata.get? "localProviderType").bind Value.asStr
    let executionLocation := descriptors.findSome? fun agent =>
      (agent.metadata.get? "executionLocation").bind Value.asStr
    let isLocalServer := localKind == some "openai-compatible" && executionLocation == some "local"
    let allowed : List String :=
      if localKind = some "llama" then ["chat", "embedding"]
      else if localKind = some "local-whisper" then ["transcription"]
      else if isLocalServer then ["chat", "embedding"]
      else []
    some {
      provider
      displayName := first.name
      capabilities
      models := (descriptors.flatMap declaredModels).toFinset
      replaySafe := localKind == some "llama" || localKind == some "local-whisper" || isLocalServer
      replayCapabilities := capabilities.filter fun capability => capability ∈ allowed
      localKind }

/-- The providers that `configure_inner` keeps. -/
def configuredProviders (providers : List AgentGatewayProvider) (agents : List AgentDescriptor) :
    HashMap String ConfiguredProvider :=
  collect (fun configured => configured.provider.id) (providers.filterMap (configuredProvider agents))

/-! ## Captured requests -/

inductive GatewayCaptureEvent where
  | invocationStarted (configEpoch : ℕ) (requestId bindingId : Uuid) (agentId providerKey capability : String)
      (binding input : Value) (timeoutMs : ℕ)
  | invocationFinished (configEpoch : ℕ) (requestId : Uuid) (terminal : GatewayInvocationTerminal)
      (output : Option Value)
  | invocationCancelled (configEpoch : ℕ) (requestId : Uuid)
  deriving DecidableEq

structure CapturedStart where
  routeKey : String
  agentId : String
  providerKey : String
  capability : String
  binding : Value
  input : Value
  timeoutMs : ℕ
  capturedBytes : ℕ

structure CapturedCase where
  sequence : ℕ
  routeKey : String
  agentId : String
  providerKey : String
  capability : String
  binding : Value
  input : Value
  baselineOutput : Value
  timeoutMs : ℕ
  capturedBytes : ℕ

structure OptimizationCaptureIssue where
  routeKey : String
  capability : String
  providerKey : String
  message : String

inductive CaptureDisposition where
  | captured | dropped | ignored
  deriving DecidableEq

def corpusKey (routeKey capability : String) : String := routeKey ++ "\x00" ++ capability

def capturedValueBytes (floats : FloatText) (binding input : Value) (output : Option Value) : ℕ :=
  let inputs := Runtime.saturatingAdd (binding.encodedSize floats) (input.encodedSize floats)
  Runtime.saturatingAdd inputs ((output.map fun value => value.encodedSize floats).getD 0)

abbrev Corpus := HashMap String CapturedCase

/-- The corpus holds too many cases or too many bytes. -/
def Corpus.Overfull (corpus : Corpus) : Prop :=
  corpus.entries.length > maxCapturedCases ∨
    (corpus.entries.map fun entry => entry.2.capturedBytes).sum > maxCapturedBytes

instance (corpus : Corpus) : Decidable corpus.Overfull := by
  unfold Corpus.Overfull
  infer_instance

def Corpus.oldest (corpus : Corpus) : Option (String × CapturedCase) :=
  ((inOrder corpus).insertionSort fun first second => first.2.sequence ≤ second.2.sequence).head?

/-- The loop of `trim_corpus`, with as many rounds as there are cases. -/
def Corpus.trimRounds : ℕ → Corpus → Corpus × List CapturedCase
  | 0, corpus => (corpus, [])
  | rounds + 1, corpus =>
    if corpus.Overfull then
      match corpus.oldest with
      | none => (corpus, [])
      | some (key, evicted) =>
        let rest := trimRounds rounds (corpus.erase key)
        (rest.1, evicted :: rest.2)
    else (corpus, [])

/-- `trim_corpus`: what is left, and what was evicted. -/
def Corpus.trim (corpus : Corpus) : Corpus × List CapturedCase := corpus.trimRounds corpus.entries.length

/-- What `activate` reads of a `RouteCombination`. -/
abbrev RouteCombination := HashMap String String

/-! ## The bounds of the corpus -/

theorem mem_inOrder {V : Type} {table : HashMap String V} {key : String} {value : V} :
    (key, value) ∈ inOrder table ↔ table.lookup key = some value := by
  rw [inOrder, List.mem_insertionSort, List.mem_map]
  constructor
  · intro ⟨entry, mem, isEntry⟩
    cases isEntry
    exact AList.mem_lookup_iff.mpr mem
  · intro stored
    exact ⟨⟨key, value⟩, AList.mem_lookup_iff.mp stored, rfl⟩

theorem Corpus.oldest_of_overfull {corpus : Corpus} (overfull : corpus.Overfull) :
    ∃ key evicted, corpus.oldest = some (key, evicted) ∧ corpus.lookup key = some evicted := by
  have entry : ∃ entry, entry ∈ corpus.entries := by
    cases isEmpty : corpus.entries with
    | nil => simp [Corpus.Overfull, isEmpty] at overfull
    | cons entry rest => exact ⟨entry, List.mem_cons_self⟩
  obtain ⟨entry, mem⟩ := entry
  have listed := mem_inOrder.mpr (AList.mem_lookup_iff.mpr mem)
  cases isOldest : corpus.oldest with
  | none =>
    rw [oldest, List.head?_eq_none_iff] at isOldest
    rw [← List.mem_insertionSort fun first second : String × CapturedCase => first.2.sequence ≤ second.2.sequence,
      isOldest] at listed
    cases listed
  | some found =>
    exact ⟨found.1, found.2, rfl,
      mem_inOrder.mp ((List.mem_insertionSort _).mp (List.mem_of_head? isOldest))⟩

theorem Corpus.trim_fits (corpus : Corpus) : ¬corpus.trim.1.Overfull := by
  have rounds : ∀ (rounds : ℕ) (corpus : Corpus), corpus.entries.length ≤ rounds →
      ¬(corpus.trimRounds rounds).1.Overfull := by
    intro rounds
    induction rounds with
    | zero =>
      intro corpus empty
      have isEmpty : corpus.entries = [] := List.length_eq_zero_iff.mp (by omega)
      simp [trimRounds, Overfull, isEmpty]
    | succ rounds ih =>
      intro corpus few
      rw [trimRounds]
      split
      next overfull =>
        obtain ⟨key, evicted, isOldest, stored⟩ := oldest_of_overfull overfull
        simp only [isOldest]
        apply ih
        -- the oldest case is gone
        have fewer := tally_erase (p := fun _ => true) stored
        simp only [tally, List.countP_true, if_true] at fewer
        omega
      next fits => exact fits
  exact rounds corpus.entries.length corpus le_rfl

structure OptimizationState where
  configEpoch : ℕ
  providers : HashMap String ConfiguredProvider
  inFlight : HashMap Uuid CapturedStart
  corpus : Corpus
  captureIssues : HashMap String OptimizationCaptureIssue
  nextCaptureSequence : ℕ

namespace OptimizationState

/-- `OptimizationState::default()`. -/
def empty : OptimizationState where
  configEpoch := 0
  providers := ∅
  inFlight := ∅
  corpus := ∅
  captureIssues := ∅
  nextCaptureSequence := 0

variable (state : OptimizationState)

def configure (providers : List AgentGatewayProvider) (agents : List AgentDescriptor) : OptimizationState where
  configEpoch := max (Runtime.saturatingAdd state.configEpoch 1) 1
  providers := configuredProviders providers agents
  inFlight := ∅
  corpus := ∅
  captureIssues := ∅
  nextCaptureSequence := 0

def noteIssue (issue : OptimizationCaptureIssue) : OptimizationState :=
  { state with captureIssues := state.captureIssues.insert (corpusKey issue.routeKey issue.capability) issue }

def dropCase (issue : OptimizationCaptureIssue) : OptimizationState :=
  { state.noteIssue issue with corpus := state.corpus.erase (corpusKey issue.routeKey issue.capability) }

def overLimitMessage (capturedBytes : ℕ) : String :=
  s!"capture is {capturedBytes} bytes; per-invocation limit is {maxSingleCaptureBytes} bytes"

def overBudgetMessage : String :=
  s!"capture admission exceeded the in-flight budget of {maxInFlightCaptures} calls or {maxInFlightCaptureBytes} bytes"

def evictedMessage : String :=
  s!"capture was evicted to keep the optimization corpus under {maxCapturedBytes} bytes"

/-- Puts a case into the corpus and evicts the oldest ones until it fits. -/
def addCase (added : CapturedCase) : OptimizationState :=
  let key := corpusKey added.routeKey added.capability
  let trimmed := Corpus.trim (state.corpus.insert key added)
  let kept := { state with captureIssues := state.captureIssues.erase key, corpus := trimmed.1 }
  trimmed.2.foldl (fun state evicted =>
    state.noteIssue ⟨evicted.routeKey, evicted.capability, evicted.providerKey, evictedMessage⟩) kept

def capture (floats : FloatText) : GatewayCaptureEvent → OptimizationState × CaptureDisposition
  | .invocationStarted configEpoch requestId bindingId agentId providerKey capability binding input timeoutMs =>
    if configEpoch ≠ state.configEpoch then (state, .ignored)
    else
      let routeKey := bindingId.text
      let capturedBytes := capturedValueBytes floats binding input none
      let inFlightBytes := (state.inFlight.entries.map fun entry => entry.2.capturedBytes).sum
      if capturedBytes ≤ maxSingleCaptureBytes ∧ state.inFlight.entries.length < maxInFlightCaptures ∧
          Runtime.saturatingAdd inFlightBytes capturedBytes ≤ maxInFlightCaptureBytes then
        let start : CapturedStart :=
          { routeKey, agentId, providerKey, capability, binding, input, timeoutMs, capturedBytes }
        ({ state with inFlight := state.inFlight.insert requestId start }, .captured)
      else
        let message := if capturedBytes > maxSingleCaptureBytes then overLimitMessage capturedBytes
          else overBudgetMessage
        (state.dropCase { routeKey, capability, providerKey, message }, .dropped)
  | .invocationFinished configEpoch requestId terminal output =>
    if configEpoch ≠ state.configEpoch then (state, .ignored)
    else match state.inFlight.lookup requestId with
      | none => (state, .ignored)
      | some start =>
        let rest := { state with inFlight := state.inFlight.erase requestId }
        match terminal, output with
        | .delivered, some output =>
          let capturedBytes := capturedValueBytes floats start.binding start.input (some output)
          if capturedBytes > maxSingleCaptureBytes then
            (rest.dropCase ⟨start.routeKey, start.capability, start.providerKey, overLimitMessage capturedBytes⟩,
              .dropped)
          else
            let sequence := Runtime.saturatingAdd state.nextCaptureSequence 1
            let added : CapturedCase := {
              sequence
              routeKey := start.routeKey
              agentId := start.agentId
              providerKey := start.providerKey
              capability := start.capability
              binding := start.binding
              input := start.input
              baselineOutput := output
              timeoutMs := max start.timeoutMs 1
              capturedBytes }
            ({ rest with nextCaptureSequence := sequence }.addCase added, .captured)
        | _, _ => (rest, .captured)
  | .invocationCancelled configEpoch requestId =>
    if configEpoch ≠ state.configEpoch then (state, .ignored)
    else if state.inFlight.lookup requestId |>.isSome then
      ({ state with inFlight := state.inFlight.erase requestId }, .captured)
    else (state, .ignored)

def droppedMessage : String := "capture was dropped because the bounded optimization queue was full"

def noteCaptureDropped (configEpoch : ℕ) (requestId : Uuid) (routeKey capability providerKey : Option String) :
    OptimizationState :=
  if configEpoch ≠ state.configEpoch then state
  else
    let captured := state.inFlight.lookup requestId
    let rest := { state with inFlight := state.inFlight.erase requestId }
    let issue := do
      let routeKey ← (captured.map CapturedStart.routeKey).or routeKey
      let capability ← (captured.map CapturedStart.capability).or capability
      let providerKey ← (captured.map CapturedStart.providerKey).or providerKey
      return { routeKey, capability, providerKey, message := droppedMessage : OptimizationCaptureIssue }
    match issue with
    | none => rest
    | some issue => rest.dropCase issue

def discardCapture (configEpoch : ℕ) (requestId : Uuid) : OptimizationState :=
  if configEpoch = state.configEpoch then { state with inFlight := state.inFlight.erase requestId } else state

/-- `corpus.values()`, for one route. -/
def routeCases (routeKey : String) : List CapturedCase :=
  ((inOrder state.corpus).map Prod.snd).filter fun captured => captured.routeKey == routeKey

def checkRoute (route : String × String) : Except String Unit :=
  let (routeKey, providerKey) := route
  match state.routeCases routeKey with
  | [] => .error s!"route {routeKey} is no longer in the successful request corpus"
  | first :: rest => do
    let provider ← okOr s!"configured provider {providerKey} is unavailable" (state.providers.lookup providerKey)
    (first :: rest).forM fun captured => ensure (captured.capability ∈ provider.capabilities)
      s!"provider {providerKey} does not support {captured.capability} for route {routeKey}"

def validateActivation (combination : RouteCombination) : Except String Unit := do
  ensure (combination.entries ≠ []) "route combination must contain at least one route"
  let expectedRoutes := (((inOrder state.corpus).map fun entry => entry.2.routeKey).insertionSort (· ≤ ·)).dedup
  expectedRoutes.forM fun routeKey => ensure (combination.lookup routeKey ≠ none)
    s!"route {routeKey} is missing; rerun Optimize for the current corpus"
  (inOrder combination).forM state.checkRoute

end OptimizationState

structure OptimizationController where
  state : OptimizationState
  routeOverrides : SessionRouteOverrides

namespace OptimizationController

def new (routeOverrides : SessionRouteOverrides) : OptimizationController := { state := .empty, routeOverrides }

variable (controller : OptimizationController)

def configureInner (providers : List AgentGatewayProvider) (agents : List AgentDescriptor) (resetSession : Bool) :
    OptimizationController where
  state := controller.state.configure providers agents
  routeOverrides := if resetSession then controller.routeOverrides.clear else controller.routeOverrides

def configure (providers : List AgentGatewayProvider) (agents : List AgentDescriptor) : OptimizationController :=
  controller.configureInner providers agents true

def refreshProviders (providers : List AgentGatewayProvider) (agents : List AgentDescriptor) :
    OptimizationController :=
  controller.configureInner providers agents false

def activate (combination : RouteCombination) : Except String OptimizationController := do
  controller.state.validateActivation combination
  let routeOverrides ← controller.routeOverrides.activate combination
  return { controller with routeOverrides }

def undo : Option OptimizationController :=
  controller.routeOverrides.undo.map fun routeOverrides => { controller with routeOverrides }

end OptimizationController

end Vifu.App
