import Vifu.App.Optimization

/-!
# Active route overrides

A session is a run of one controller.  It remembers the providers and agents of the latest configuration, and for the
active and the earlier table the capabilities that were captured for each route when the table was activated.
-/

namespace Vifu.App

open Foundation
open Vifu.Runtime hiding u64Max saturatingAdd
open Vifu.Gateway (AgentDescriptor SessionRouteOverrides Uuid)

/-! ## Sessions -/

structure ProviderReport where
  providers : List AgentGatewayProvider
  agents : List AgentDescriptor

structure OptimizationSession where
  controller : OptimizationController
  /-- The latest report. -/
  report : ProviderReport
  /-- The routes and capabilities of the corpus when the active table was activated. -/
  captured : List (String × String)
  /-- The same for the table that an undo brings back. -/
  capturedBefore : List (String × String)

inductive OptimizationAction where
  | configure (report : ProviderReport)
  | refreshProviders (report : ProviderReport)
  | capture (event : GatewayCaptureEvent)
  | noteCaptureDropped (configEpoch : ℕ) (requestId : Uuid) (routeKey capability providerKey : Option String)
  | discardCapture (configEpoch : ℕ) (requestId : Uuid)
  | activate (combination : RouteCombination)
  | undo

def OptimizationState.capturedRoutes (state : OptimizationState) : List (String × String) :=
  state.corpus.entries.map fun entry => (entry.2.routeKey, entry.2.capability)

namespace OptimizationSession

def initial : OptimizationSession where
  controller := .new .empty
  report := ⟨[], []⟩
  captured := []
  capturedBefore := []

variable (session : OptimizationSession)

def onState (change : OptimizationState → OptimizationState) : OptimizationSession :=
  { session with controller := { session.controller with state := change session.controller.state } }

/-- Every call of the controller returns; a plan that is refused and an undo without an earlier table change nothing. -/
def step (floats : FloatText) : OptimizationAction → OptimizationSession
  | .configure report =>
    { controller := session.controller.configure report.providers report.agents
      report
      captured := []
      capturedBefore := [] }
  | .refreshProviders report =>
    { session with controller := session.controller.refreshProviders report.providers report.agents, report }
  | .capture event => session.onState fun state => (state.capture floats event).1
  | .noteCaptureDropped configEpoch requestId routeKey capability providerKey =>
    session.onState fun state => state.noteCaptureDropped configEpoch requestId routeKey capability providerKey
  | .discardCapture configEpoch requestId => session.onState fun state => state.discardCapture configEpoch requestId
  | .activate combination =>
    match session.controller.activate combination with
    | .error _ => session
    | .ok controller =>
      { session with
        controller
        captured := session.controller.state.capturedRoutes
        capturedBefore := session.captured }
  | .undo =>
    match session.controller.undo with
    | none => session
    | some controller => { session with controller, captured := session.capturedBefore, capturedBefore := [] }

end OptimizationSession

def optimizationMachine (floats : FloatText) : Machine OptimizationSession OptimizationAction where
  start session := session = .initial
  step session action := some (session.step floats action)

def Supported (providers : HashMap String ConfiguredProvider) (captured : List (String × String))
    (routes : HashMap String String) : Prop :=
  ∀ routeKey providerKey, routes.lookup routeKey = some providerKey →
    ∃ configured, providers.lookup providerKey = some configured ∧
      ∀ capability, (routeKey, capability) ∈ captured → capability ∈ configured.capabilities

def OptimizationSession.OverridesValid (session : OptimizationSession) : Prop :=
  Supported session.controller.state.providers session.captured session.controller.routeOverrides.routes

def ProviderReport.Serves (report : ProviderReport) (captured : List (String × String))
    (route : Σ _ : String, String) : Prop :=
  (∃ provider ∈ report.providers, provider.id = route.2) ∧
    (∃ agent ∈ report.agents, descriptorProviderKey agent = route.2) ∧
    ∀ needed ∈ captured, needed.1 = route.1 →
      ∃ agent ∈ report.agents, descriptorProviderKey agent = route.2 ∧ needed.2 ∈ declaredCapabilities agent

/-- A refresh reports the providers of the active table with what their routes need, and an undo comes while the
latest report has those of the earlier table. -/
def Steady (session : OptimizationSession) : OptimizationAction → Prop
  | .refreshProviders report =>
    ∀ route ∈ session.controller.routeOverrides.routes.entries, report.Serves session.captured route
  | .undo =>
    ∀ previous ∈ session.controller.routeOverrides.previous,
      ∀ route ∈ previous.entries, session.report.Serves session.capturedBefore route
  | .configure _ | .capture _ | .noteCaptureDropped .. | .discardCapture .. | .activate _ => True

instance decidableServes (report : ProviderReport) (captured : List (String × String)) (route : Σ _ : String, String) :
    Decidable (report.Serves captured route) := by
  unfold ProviderReport.Serves
  infer_instance

instance decidableSteady : ∀ session action, Decidable (Steady session action) := by
  intro session action
  cases action <;> unfold Steady <;> infer_instance

/-! ## Configurations -/

variable {agents : List AgentDescriptor} {provider : AgentGatewayProvider} {state : OptimizationState}
  {agent : AgentDescriptor}

theorem mem_described {providerId : String} :
    agent ∈ described agents providerId ↔ agent ∈ agents ∧ descriptorProviderKey agent = providerId := by
  simp [described]

theorem capabilities_of_configured
    {configured : ConfiguredProvider} (configures : configuredProvider agents provider = some configured) :
    configured.provider = provider ∧ ∀ capability, capability ∈ configured.capabilities ↔
      ∃ agent ∈ agents, descriptorProviderKey agent = provider.id ∧ capability ∈ declaredCapabilities agent := by
  unfold configuredProvider at configures
  split at configures
  · cases configures
  next first rest names =>
    simp only [Option.some.injEq] at configures
    subst configures
    refine ⟨rfl, ?_⟩
    intro capability
    simp only [← names, List.mem_toFinset, List.mem_flatMap, mem_described, and_assoc]

theorem configures_of_named (reported : agent ∈ agents) (names : descriptorProviderKey agent = provider.id) :
    ∃ configured, configuredProvider agents provider = some configured := by
  have mem := mem_described.mpr ⟨reported, names⟩
  unfold configuredProvider
  cases isDescribed : described agents provider.id with
  | nil => simp [isDescribed] at mem
  | cons first rest => exact ⟨_, rfl⟩

theorem exists_lookup_collect {V : Type} (key : V → String) {values : List V} {value : V} (mem : value ∈ values) :
    ∃ found, (collect key values).lookup (key value) = some found := by
  have fold : ∀ (values : List V) (table : HashMap String V),
      (value ∈ values ∨ key value ∈ table) →
      key value ∈ values.foldl (fun table value => table.insert (key value) value) table := by
    intro values
    induction values with
    | nil =>
      intro table source
      simpa using source
    | cons head tail ih =>
      intro table source
      apply ih
      simp only [List.mem_cons, AList.mem_insert] at source ⊢
      grind
  exact Option.isSome_iff_exists.mp (AList.lookup_isSome.mpr (fold values ∅ (.inl mem)))

theorem supported_of_serves {report : ProviderReport} {captured : List (String × String)}
    {routes : HashMap String String} (serves : ∀ route ∈ routes.entries, report.Serves captured route) :
    Supported (configuredProviders report.providers report.agents) captured routes := by
  intro routeKey providerKey isRoute
  obtain ⟨⟨provider, answered, isProvider⟩, ⟨agent, reported, names⟩, needed⟩ :=
    serves ⟨routeKey, providerKey⟩ (AList.mem_lookup_iff.mp isRoute)
  subst isProvider
  -- the provider is configured, and whatever stands under its key has its capabilities
  obtain ⟨own, configures⟩ := configures_of_named reported names
  have listed : own ∈ report.providers.filterMap (configuredProvider report.agents) :=
    List.mem_filterMap.mpr ⟨provider, answered, configures⟩
  obtain ⟨found, stored⟩ := exists_lookup_collect (fun configured => configured.provider.id) listed
  rw [(capabilities_of_configured configures).1] at stored
  refine ⟨found, stored, ?_⟩
  intro capability isCaptured
  obtain ⟨isConfigured, keyed⟩ := mem_of_lookup_collect stored
  obtain ⟨other, -, configuresOther⟩ := List.mem_filterMap.mp isConfigured
  obtain ⟨isOther, capabilities⟩ := capabilities_of_configured configuresOther
  rw [isOther] at keyed
  rw [capabilities, keyed]
  exact needed (routeKey, capability) isCaptured rfl

theorem mem_capturedRoutes {routeKey capability : String} : (routeKey, capability) ∈ state.capturedRoutes ↔
      ∃ captured ∈ state.routeCases routeKey, captured.capability = capability := by
  simp only [OptimizationState.capturedRoutes, OptimizationState.routeCases, List.mem_map, List.mem_filter,
    beq_iff_eq, Prod.mk.injEq]
  constructor
  · intro ⟨⟨key, captured⟩, mem, isRoute, isCapability⟩
    exact ⟨captured, ⟨⟨(key, captured), mem_inOrder.mpr (AList.mem_lookup_iff.mpr mem), rfl⟩, isRoute⟩, isCapability⟩
  · intro ⟨_, ⟨⟨⟨key, held⟩, mem, rfl⟩, isRoute⟩, isCapability⟩
    exact ⟨⟨key, held⟩, AList.mem_lookup_iff.mp (mem_inOrder.mp mem), isRoute, isCapability⟩

theorem checkRoute_ok {routeKey providerKey : String}
    (accepted : state.checkRoute (routeKey, providerKey) = .ok ()) :
    ∃ configured, state.providers.lookup providerKey = some configured ∧
      ∀ capability, (routeKey, capability) ∈ state.capturedRoutes → capability ∈ configured.capabilities := by
  simp only [OptimizationState.checkRoute] at accepted
  split at accepted
  · cases accepted
  next first rest listed =>
    rw [bind_ok] at accepted
    obtain ⟨configured, isConfigured, supports⟩ := accepted
    refine ⟨configured, okOr_ok.mp isConfigured, ?_⟩
    intro capability isCaptured
    obtain ⟨needed, mem, rfl⟩ := mem_capturedRoutes.mp isCaptured
    rw [listed] at mem
    exact ensure_ok.mp (forM_ok.mp supports needed mem)

theorem supported_of_activate {controller next : OptimizationController} {combination : RouteCombination}
    (activated : controller.activate combination = .ok next) :
    next.state = controller.state ∧ next.routeOverrides.routes = combination ∧
      next.routeOverrides.previous = some controller.routeOverrides.routes ∧
      Supported controller.state.providers controller.state.capturedRoutes combination := by
  rw [OptimizationController.activate, check_bind_ok, bind_ok] at activated
  obtain ⟨validated, routeOverrides, replaced, isNext⟩ := activated
  rw [pure_ok] at isNext
  subst isNext
  obtain ⟨routes, previous⟩ := SessionRouteOverrides.activate_ok replaced
  refine ⟨rfl, routes, previous, ?_⟩
  simp only [OptimizationState.validateActivation, check_bind_ok] at validated
  intro routeKey providerKey isRoute
  exact checkRoute_ok (forM_ok.mp validated.2.2 _ (mem_inOrder.mpr isRoute))

/-! ## Captures -/

namespace OptimizationState

variable {floats : FloatText}

@[simp] theorem providers_noteIssue (issue : OptimizationCaptureIssue) :
    (state.noteIssue issue).providers = state.providers := rfl

@[simp] theorem providers_dropCase (issue : OptimizationCaptureIssue) :
    (state.dropCase issue).providers = state.providers := rfl

theorem providers_foldl_noteIssue (evicted : List CapturedCase) (issue : CapturedCase → OptimizationCaptureIssue) :
    (evicted.foldl (fun state captured => state.noteIssue (issue captured)) state).providers = state.providers := by
  induction evicted generalizing state with
  | nil => rfl
  | cons head tail ih => rw [List.foldl_cons, ih, providers_noteIssue]

@[simp] theorem providers_addCase (added : CapturedCase) : (state.addCase added).providers = state.providers :=
  providers_foldl_noteIssue _ _

theorem providers_capture (event : GatewayCaptureEvent) :
    (state.capture floats event).1.providers = state.providers := by
  cases event with
  | invocationStarted =>
    simp only [capture]
    split
    · rfl
    · split <;> rfl
  | invocationFinished =>
    simp only [capture]
    split
    · rfl
    · split
      · rfl
      · split
        · split <;> simp
        · rfl
  | invocationCancelled =>
    simp only [capture]
    split
    · rfl
    · split <;> rfl

theorem providers_noteCaptureDropped (configEpoch : ℕ) (requestId : Uuid)
    (routeKey capability providerKey : Option String) :
    (state.noteCaptureDropped configEpoch requestId routeKey capability providerKey).providers = state.providers := by
  unfold noteCaptureDropped
  split
  · rfl
  · dsimp only
    split <;> rfl

theorem providers_discardCapture (configEpoch : ℕ) (requestId : Uuid) :
    (state.discardCapture configEpoch requestId).providers = state.providers := by
  unfold discardCapture
  split <;> rfl

end OptimizationState

/-! ## Runs -/

structure OptimizationSession.Valid (session : OptimizationSession) : Prop where
  configured : session.controller.state.providers =
    configuredProviders session.report.providers session.report.agents
  overrides : session.OverridesValid

namespace OptimizationSession.Valid

variable {session : OptimizationSession} {floats : FloatText}

theorem initial : Valid .initial where
  configured := rfl
  overrides := by
    intro routeKey providerKey isRoute
    cases isRoute

theorem onState (valid : session.Valid) (change : OptimizationState → OptimizationState)
    (keeps : (change session.controller.state).providers = session.controller.state.providers) :
    (session.onState change).Valid where
  configured := keeps.trans valid.configured
  overrides := by
    rw [OverridesValid, OptimizationSession.onState, keeps]
    exact valid.overrides

theorem step (valid : session.Valid) {action : OptimizationAction} (steady : Steady session action) :
    (session.step floats action).Valid := by
  cases action with
  | configure report =>
    refine ⟨rfl, ?_⟩
    intro routeKey providerKey isRoute
    cases isRoute
  | refreshProviders report => exact ⟨rfl, supported_of_serves steady⟩
  | capture event => exact valid.onState (fun state => (state.capture floats event).1) (OptimizationState.providers_capture event)
  | noteCaptureDropped configEpoch requestId routeKey capability providerKey =>
    exact valid.onState (fun state => state.noteCaptureDropped configEpoch requestId routeKey capability providerKey)
      (OptimizationState.providers_noteCaptureDropped configEpoch requestId routeKey capability providerKey)
  | discardCapture configEpoch requestId =>
    exact valid.onState (fun state => state.discardCapture configEpoch requestId)
      (OptimizationState.providers_discardCapture configEpoch requestId)
  | activate combination =>
    simp only [OptimizationSession.step]
    split
    · exact valid
    next controller activated =>
      obtain ⟨state, routes, -, supported⟩ := supported_of_activate activated
      refine ⟨by rw [state]; exact valid.configured, ?_⟩
      rw [OverridesValid, state, routes]
      exact supported
  | undo =>
    simp only [OptimizationSession.step]
    split
    · exact valid
    next controller undone =>
      obtain ⟨routeOverrides, restored, rfl⟩ := Option.map_eq_some_iff.mp undone
      obtain ⟨previous, isPrevious, rfl⟩ := Option.map_eq_some_iff.mp restored
      refine ⟨valid.configured, ?_⟩
      rw [OverridesValid, valid.configured]
      exact supported_of_serves (steady previous isPrevious)

end OptimizationSession.Valid

/-- In every run in which each refresh reports the providers of the active table with what their routes need, and
each undo comes while the latest report has those of the earlier one, the active overrides are valid. -/
theorem overrides_stay_valid (floats : FloatText) (session : OptimizationSession)
    (reachable : (optimizationMachine floats).Reachable Steady session) : session.OverridesValid := by
  have valid : session.Valid := reachable.invariant
    (by intro _ starts; subst starts; exact .initial)
    (by intro _ _ _ holds steady stepped; cases stepped; exact holds.step steady)
  exact valid.overrides

def draftRoute : Uuid := ⟨"0190f2c4-7b1e-7c3a-9d52-1f6a0e8b4e35", by decide⟩

def draftRequest : Uuid := ⟨"0190f2c4-7b1e-7c3a-9d52-1f6a0e8b4e36", by decide⟩

def chatAgent (id : String) : AgentDescriptor where
  id
  name := id
  metadata := .object [("capabilities", .array [.string "chat"]), ("localProviderType", .string "llama")]

def chatReport (ids : List String) : ProviderReport := ⟨ids.map AgentGatewayProvider.mk, ids.map chatAgent⟩

def draftPlan (providerKey : String) : RouteCombination := AList.singleton draftRoute.text providerKey

/-- Two providers are configured, and a request of the route has been answered. -/
def draftCaptured : List OptimizationAction :=
  [.configure (chatReport ["small", "large"]),
    .capture (.invocationStarted 1 draftRequest draftRoute "small" "small" "chat" .null .null 1000),
    .capture (.invocationFinished 1 draftRequest .delivered (some .null))]

/-- A plan outlives a reconnect that its provider answers. -/
theorem overrides_stay_valid_draft : ∃ session, ((optimizationMachine fun _ => "0.5").Reachable Steady session ∧
      session.controller.routeOverrides.routes.lookup draftRoute.text = some "large" ∧
        session.controller.state.configEpoch = 2) ∧ session.OverridesValid := by
  obtain ⟨session, reachable, passes⟩ := (optimizationMachine fun _ => "0.5").reachable_of_execute Steady
    (show (optimizationMachine fun _ => "0.5").start .initial from rfl)
    (draftCaptured ++ [.activate (draftPlan "large"), .activate (draftPlan "small"), .undo,
      .refreshProviders (chatReport ["large"])])
    (fun session => decide (session.controller.routeOverrides.routes.lookup draftRoute.text = some "large" ∧
      session.controller.state.configEpoch = 2))
    (by decide +kernel)
  exact ⟨session, ⟨reachable, of_decide_eq_true passes⟩, overrides_stay_valid _ session reachable⟩

/-- A plan outlives a reconnect that its provider does not answer. -/
theorem override_outlives_provider : ¬∀ (floats : FloatText) (session : OptimizationSession),
      (optimizationMachine floats).Reachable Machine.always session → session.OverridesValid := by
  intro promised
  obtain ⟨session, reachable, passes⟩ := (optimizationMachine fun _ => "0.5").reachable_of_execute Machine.always
    (show (optimizationMachine fun _ => "0.5").start .initial from rfl)
    (draftCaptured ++ [.activate (draftPlan "large"), .refreshProviders (chatReport ["small"])])
    (fun session => decide (session.controller.routeOverrides.routes.lookup draftRoute.text = some "large" ∧
      (session.controller.state.providers.lookup "large").isNone = true))
    (by decide +kernel)
  obtain ⟨isRoute, isGone⟩ := of_decide_eq_true passes
  obtain ⟨configured, isConfigured, -⟩ := promised _ session reachable _ _ isRoute
  rw [isConfigured] at isGone
  cases isGone

end Vifu.App
