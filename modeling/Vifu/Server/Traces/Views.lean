import Vifu.Server.Traces.Telemetry

/-!
# One trace at a time

What a batch of telemetry does, told without tables: a view holds one trace, its root span and every other span
by its id.  Each event is a report, which sets columns of the root and of the trace and may store an observation
below the root; the summaries and the gap of the batch are one more report.  The tables follow the view.
-/

namespace Vifu.Server

open Foundation
open Vifu.Gateway
open Vifu.Runtime hiding validateIdentifier

/-- The columns of the root, and of its trace, that reports set. -/
structure RootEntries where
  providerKey : Option String := none
  capabilityKind : Option String := none
  model : Option String := none
  completionStartMs : Option ℕ := none
  inputTokens : Option ℕ := none
  outputTokens : Option ℕ := none
  input : Option (Value × Bool) := none
  output : Option (Value × Bool) := none
  deriving DecidableEq

namespace RootEntries

def patched (entries : RootEntries) (attributes : Value) : Value :=
  if entries.input.isNone ∧ entries.output.isNone then attributes
  else jsonPatch attributes (TraceTables.traceIoMarker entries.input entries.output)

def apply (entries : RootEntries) (root : TraceSpan) : TraceSpan :=
  { root with
    providerKey := entries.providerKey.or root.providerKey
    capabilityKind := entries.capabilityKind.or root.capabilityKind
    model := entries.model.or root.model
    completionStartMs := entries.completionStartMs.or root.completionStartMs
    usage := TraceTables.mergedUsage entries.inputTokens entries.outputTokens root.usage
    inputSummary := (entries.input.map Prod.fst).or root.inputSummary
    outputSummary := (entries.output.map Prod.fst).or root.outputSummary
    attributes := entries.patched root.attributes }

def applyTrace (entries : RootEntries) (trace : EndpointTrace) : EndpointTrace :=
  { trace with
    providerKey := entries.providerKey.or trace.providerKey
    capabilityKind := entries.capabilityKind.or trace.capabilityKind }

/-- The identity that is copied after the columns are set. -/
def seen (entries : RootEntries) (target : RuntimeTraceTarget) : RuntimeTraceTarget :=
  { target with
    providerKey := entries.providerKey.or target.providerKey
    capabilityKind := entries.capabilityKind.or target.capabilityKind
    model := entries.model.or target.model }

/-- The entries of two writes, the later one first. -/
def after (later earlier : RootEntries) : RootEntries where
  providerKey := later.providerKey.or earlier.providerKey
  capabilityKind := later.capabilityKind.or earlier.capabilityKind
  model := later.model.or earlier.model
  completionStartMs := later.completionStartMs.or earlier.completionStartMs
  inputTokens := later.inputTokens.or earlier.inputTokens
  outputTokens := later.outputTokens.or earlier.outputTokens
  input := later.input.or earlier.input
  output := later.output.or earlier.output

end RootEntries

/-- An observation of another trace, or copied under another identity. -/
def RuntimeTraceObservation.retarget (target : RuntimeTraceTarget) (observation : RuntimeTraceObservation) :
    RuntimeTraceObservation :=
  { observation with
    traceId := target.traceId
    parentSpanId := target.parentSpanId
    providerKey := target.providerKey
    capabilityKind := target.capabilityKind
    model := target.model }

/-- How an observation is described for a target; of the target it has its trace, its parent and its identity. -/
structure Description where
  describe : RuntimeTraceTarget → RuntimeTraceObservation
  uniform : ∀ target other, describe target = (describe other).retarget target

structure Report where
  entries : RootEntries
  observation : Option Description

def eventReport : TraceTelemetry → Report
  | .invocationStarted providerKey capability model =>
    { entries := { providerKey := some providerKey, capabilityKind := some capability, model }, observation := none }
  | .providerStage stage =>
    { entries :=
        if stage.status = .started then {}
        else
          { completionStartMs := completionStart stage
            inputTokens := stage.inputTokens
            outputTokens := stage.outputTokens }
      observation := some ⟨stageObservation stage, fun _ _ => rfl⟩ }
  | .delivery delivery => { entries := {}, observation := some ⟨deliveryObservation delivery, fun _ _ => rfl⟩ }

def batchReport (requestId : Uuid) (batch : TraceTelemetryBatch) : Report where
  entries :=
    { input := batch.rootInputSummary.map summaryColumns
      output := batch.rootOutputSummary.map summaryColumns }
  observation :=
    if batch.droppedEvents = 0 then none else some ⟨gapObservation requestId batch.droppedEvents, fun _ _ => rfl⟩

def batchReports (requestId : Uuid) (batch : TraceTelemetryBatch) : List Report :=
  batch.events.map eventReport ++ [batchReport requestId batch]

structure TraceView where
  trace : EndpointTrace
  root : TraceSpan
  others : Uuid → Option TraceSpan

namespace TraceView

variable (view : TraceView)

def spanOf (id : Uuid) : Option TraceSpan := if id = view.root.id then some view.root else view.others id

def target : RuntimeTraceTarget where
  traceId := view.trace.id
  parentSpanId := some view.root.id
  providerKey := view.root.providerKey.or view.trace.providerKey
  capabilityKind := view.root.capabilityKind.or view.trace.capabilityKind
  model := view.root.model

def write (entries : RootEntries) : TraceView :=
  { view with trace := entries.applyTrace view.trace, root := entries.apply view.root }

def stored (clock : Clock) (observation : RuntimeTraceObservation) : Option TraceSpan → TraceSpan
  | none => observation.row clock
  | some span => observation.replace clock span

def Refuses (observation : RuntimeTraceObservation) : Prop :=
  ∃ span ∈ view.spanOf observation.id, observation.matchesSpan span = false

instance (observation : RuntimeTraceObservation) : Decidable (view.Refuses observation) :=
  inferInstanceAs (Decidable (∃ span ∈ view.spanOf observation.id, observation.matchesSpan span = false))

def store (clock : Clock) (observation : RuntimeTraceObservation) : TraceView :=
  { view with
    others := Function.update view.others observation.id
      (some (stored clock observation (view.others observation.id))) }

def observe (clock : Clock) : Option Description → Bool × TraceView
  | none => (true, view)
  | some description =>
    if view.Refuses (description.describe view.target) then (false, view)
    else (true, view.store clock (description.describe view.target))

/-- Whether a report goes through, and what it leaves. -/
def receive (clock : Clock) (report : Report) : Bool × TraceView := (view.write report.entries).observe clock report.observation

/-- Reports one after the other, up to the first that does not go through. -/
def run (clock : Clock) : List Report → TraceView → Bool × TraceView
  | [], view => (true, view)
  | report :: reports, view =>
    if (view.receive clock report).1 then run clock reports (view.receive clock report).2
    else (false, (view.receive clock report).2)

end TraceView

/-! ## Tables after a statement -/

namespace TraceTables

variable {tables : TraceTables} {span : TraceSpan}

theorem rootId_congr {next : TraceTables} {traceId : Uuid}
    (same : (next.traceSpans.rows.map TraceSpan.place).filter (SpanPlace.isRootOf traceId) =
      (tables.traceSpans.rows.map TraceSpan.place).filter (SpanPlace.isRootOf traceId)) :
    next.rootId traceId = tables.rootId traceId := by
  rw [rootId, same, rootId]

section

variable {id : Uuid} {change : TraceSpan → TraceSpan} {keeps : ∀ span, (change span).id = span.id}

theorem spanOf_updateSpan (other : Uuid) : (tables.updateSpan id change keeps).spanOf other =
    if other = id then (tables.spanOf other).map change else tables.spanOf other := by
  have found : (tables.updateSpan id change keeps).spanOf other =
      (tables.spanOf other).map (Rows.updated (fun row => row.id == id) change) := by
    have stays : ∀ span, ((change span).id == other) = (span.id == other) := by
      intro span
      rw [keeps]
    exact Rows.find?_update keeps stays
  rw [found]
  cases isSpan : tables.spanOf other with
  | none => simp
  | some span =>
    have named : span.id = other := by simpa using (Rows.mem_of_find? isSpan).2
    by_cases same : other = id <;> simp [Rows.updated, named, same]

theorem rootId_updateSpan (stays : ∀ span, (change span).place = span.place) (traceId : Uuid) :
    (tables.updateSpan id change keeps).rootId traceId = tables.rootId traceId := by
  apply rootId_congr
  have same : TraceSpan.place ∘ Rows.updated (fun row => row.id == id) change = TraceSpan.place := by
    funext span
    rw [Function.comp_apply, Rows.updated]
    split
    · exact stays span
    · rfl
  rw [updateSpan, Rows.update, List.map_map, same]

end

section

variable {requestId : Uuid} {change : EndpointTrace → EndpointTrace}
  {keeps : ∀ trace, Keyed.key (change trace) = Keyed.key trace}

theorem traceOf_updateTrace : (tables.updateTrace requestId change keeps).traceOf requestId =
    (tables.traceOf requestId).map change := by
  have found : (tables.updateTrace requestId change keeps).traceOf requestId =
      (tables.traceOf requestId).map (Rows.updated (fun row => row.requestId == requestId) change) := by
    have stays : ∀ trace, ((change trace).requestId == requestId) = (trace.requestId == requestId) := by
      intro trace
      have sameKey : ((change trace).id, (change trace).requestId) = (trace.id, trace.requestId) := keeps trace
      rw [(Prod.mk.inj sameKey).2]
    exact Rows.find?_update keeps stays
  rw [found]
  cases isTrace : tables.traceOf requestId with
  | none => rfl
  | some trace =>
    have named : (trace.requestId == requestId) = true := (Rows.mem_of_find? isTrace).2
    rw [Option.map_some, Option.map_some, Rows.updated, if_pos named]

end

section

variable {id : Uuid} {rows : Rows TraceSpan}

theorem spanOf_insert? (inserted : tables.traceSpans.insert? span = some rows) (other : Uuid) :
    ({ tables with traceSpans := rows } : TraceTables).spanOf other =
      (tables.spanOf other).or (if other = span.id then some span else none) := by
  show rows.find? (fun row => row.id == other) = _
  rw [Rows.find?_insert? inserted, spanOf]
  by_cases same : other = span.id
  · simp [same]
  · simp [same, Ne.symm same]

theorem rootId_insert? (inserted : tables.traceSpans.insert? span = some rows) (child : span.parentSpanId.isSome = true)
    (traceId : Uuid) : ({ tables with traceSpans := rows } : TraceTables).rootId traceId = tables.rootId traceId := by
  apply rootId_congr
  have below : SpanPlace.isRootOf traceId span.place = false := by
    rw [SpanPlace.isRootOf, TraceSpan.place, Bool.and_eq_false_iff]
    right
    rw [← Option.not_isSome, child]
    rfl
  rw [Rows.rows_of_insert? inserted, List.map_append, List.filter_append, List.map_singleton, List.filter_singleton, below]
  exact List.append_nil _

end

theorem mem_of_spanOf {id : Uuid} (found : tables.spanOf id = some span) :
    span ∈ tables.traceSpans ∧ span.id = id := by
  obtain ⟨mem, named⟩ := Rows.mem_of_find? found
  exact ⟨mem, by simpa using named⟩

theorem mem_of_traceOf {requestId : Uuid} {trace : EndpointTrace} (found : tables.traceOf requestId = some trace) :
    trace ∈ tables.endpointTraces ∧ trace.requestId = requestId := by
  obtain ⟨mem, named⟩ := Rows.mem_of_find? found
  exact ⟨mem, by simpa using named⟩

theorem mem_of_rootId {traceId id : Uuid} (isRoot : tables.rootId traceId = some id) :
    ∃ span ∈ tables.traceSpans, span.id = id ∧ span.traceId = traceId ∧ span.parentSpanId = none := by
  rw [rootId, Option.map_eq_some_iff] at isRoot
  obtain ⟨place, isHead, named⟩ := isRoot
  have mem := (List.perm_insertionSort _ _).mem_iff.mp (List.mem_of_head? isHead)
  obtain ⟨listed, isRootOf⟩ := List.mem_filter.mp mem
  obtain ⟨span, stored, isPlace⟩ := List.mem_map.mp listed
  subst isPlace
  simp only [SpanPlace.isRootOf, TraceSpan.place, Bool.and_eq_true, beq_iff_eq, Option.isNone_iff_eq_none] at isRootOf
  exact ⟨span, stored, named, isRootOf.1, isRootOf.2⟩

theorem spanOf_of_mem (stored : span ∈ tables.traceSpans) : tables.spanOf span.id = some span := by
  apply (Rows.find?_eq_some _).mpr
  · exact ⟨stored, by simp⟩
  · intro other _ named
    have same : other.id = span.id := by simpa using named
    show (span.id == other.id) = true
    rw [same, beq_self_eq_true]

end TraceTables

/-! ## The tables follow the view -/

structure TraceView.Shows (view : TraceView) (tables : TraceTables) (requestId : Uuid) : Prop where
  isTrace : tables.traceOf requestId = some view.trace
  isRoot : tables.rootId view.trace.id = some view.root.id
  spans : ∀ id, tables.spanOf id = view.spanOf id

namespace TraceView

@[simp] theorem spanOf_root (view : TraceView) : view.spanOf view.root.id = some view.root := if_pos rfl

theorem spanOf_of_ne {view : TraceView} {id : Uuid} (other : id ≠ view.root.id) : view.spanOf id = view.others id :=
  if_neg other

namespace Shows

variable {view : TraceView} {tables : TraceTables} {requestId : Uuid}

section

variable (shows : view.Shows tables requestId)
include shows

theorem root_mem : view.root ∈ tables.traceSpans :=
  (TraceTables.mem_of_spanOf ((shows.spans _).trans view.spanOf_root)).1

theorem topmost : view.root.traceId = view.trace.id ∧ view.root.parentSpanId = none := by
  obtain ⟨span, stored, named, ofTrace, noParent⟩ := TraceTables.mem_of_rootId shows.isRoot
  have isRoot := (shows.spans view.root.id).symm.trans (named ▸ TraceTables.spanOf_of_mem stored)
  rw [view.spanOf_root, Option.some.injEq] at isRoot
  rw [isRoot]
  exact ⟨ofTrace, noParent⟩

theorem target : tables.getRuntimeTraceTarget requestId = some view.target := by
  rw [TraceTables.getRuntimeTraceTarget, shows.isTrace, Option.map_some, shows.isRoot, Option.bind_some, shows.spans,
    view.spanOf_root]
  rfl

theorem requestRootId : tables.requestRootId requestId = some view.root.id := by
  rw [TraceTables.requestRootId, shows.isTrace, Option.bind_some, shows.isRoot]

theorem updateTrace (change : EndpointTrace → EndpointTrace)
    (keeps : ∀ trace, Keyed.key (change trace) = Keyed.key trace) :
    TraceView.Shows { view with trace := change view.trace } (tables.updateTrace requestId change keeps) requestId where
  isTrace := by rw [TraceTables.traceOf_updateTrace, shows.isTrace, Option.map_some]
  isRoot := by
    have sameKey : ((change view.trace).id, (change view.trace).requestId) = (view.trace.id, view.trace.requestId) :=
      keeps view.trace
    show tables.rootId (change view.trace).id = _
    rw [(Prod.mk.inj sameKey).1, shows.isRoot]
  spans := shows.spans

section

variable (change : TraceSpan → TraceSpan) (keeps : ∀ span, (change span).id = span.id)
  (stays : ∀ span, (change span).place = span.place)
include change keeps stays

theorem updateSpan :
    TraceView.Shows { view with root := change view.root } (tables.updateSpan view.root.id change keeps) requestId := by
  constructor
  case isTrace => exact shows.isTrace
  case isRoot => rw [TraceTables.rootId_updateSpan stays, shows.isRoot, keeps]
  case spans =>
    intro id
    rw [TraceTables.spanOf_updateSpan, shows.spans, TraceView.spanOf, TraceView.spanOf, keeps]
    split <;> rfl

theorem updateRoot :
    TraceView.Shows { view with root := change view.root } (tables.updateRoot requestId change keeps) requestId := by
  have isUpdate : tables.updateRoot requestId change keeps = tables.updateSpan view.root.id change keeps := by
    rw [TraceTables.updateRoot, shows.requestRootId]
  rw [isUpdate]
  exact shows.updateSpan change keeps stays

end

theorem refersTo : tables.refersTo view.target.traceId view.target.parentSpanId := by
  constructor
  · exact ⟨view.trace, (TraceTables.mem_of_traceOf shows.isTrace).1, rfl⟩
  · intro parent isParent
    cases isParent
    exact ⟨view.root, shows.root_mem, rfl⟩

end

variable {observation : RuntimeTraceObservation}

theorem upsert_refused (shows : view.Shows tables requestId) (clock : Clock) (refuses : view.Refuses observation) :
    tables.upsertRuntimeTraceObservation clock observation = .error TraceTables.observationConflict := by
  obtain ⟨span, isSpan, differs⟩ := refuses
  rw [TraceTables.upsertRuntimeTraceObservation, shows.spans, Option.mem_def.mp isSpan]
  simp only [differs, ensure, reduceCtorEq, if_false]
  rfl

theorem upsert_stored (shows : view.Shows tables requestId) (clock : Clock) (accepts : ¬view.Refuses observation)
    (ofTrace : observation.traceId = view.trace.id) (below : observation.parentSpanId = some view.root.id) :
    observation.id ≠ view.root.id ∧ ∃ next, tables.upsertRuntimeTraceObservation clock observation = .ok next ∧
      (view.store clock observation).Shows next requestId := by
  have notRoot : observation.id ≠ view.root.id := by
    intro isRoot
    apply accepts
    refine ⟨view.root, by rw [isRoot, view.spanOf_root]; rfl, ?_⟩
    simp [RuntimeTraceObservation.matchesSpan, below, shows.topmost.2]
  refine ⟨notRoot, ?_⟩
  have isOther : view.spanOf observation.id = view.others observation.id := spanOf_of_ne notRoot
  have isStoredOther : (view.store clock observation).spanOf observation.id =
      some (TraceView.stored clock observation (view.others observation.id)) := by
    have stays : observation.id ≠ (view.store clock observation).root.id := notRoot
    rw [TraceView.spanOf, if_neg stays]
    exact Function.update_self _ _ _
  rw [TraceTables.upsertRuntimeTraceObservation, shows.spans, isOther]
  cases isStored : view.others observation.id with
  | none =>
    have free : ∀ span ∈ tables.traceSpans, clash span (observation.row clock) = false := by
      intro span mem
      show (span.id == observation.id) = false
      rw [beq_eq_false_iff_ne]
      intro taken
      have found := TraceTables.spanOf_of_mem mem
      rw [taken, shows.spans, isOther, isStored] at found
      contradiction
    obtain ⟨rows, inserted⟩ := Option.isSome_iff_exists.mp (Rows.insert?_isSome.mpr free)
    have refers : tables.refersTo observation.traceId observation.parentSpanId := by
      rw [ofTrace, below]
      exact shows.refersTo
    refine ⟨{ tables with traceSpans := rows }, by simp [refers, inserted, ensure, okOr, ok_bind], ?_⟩
    have child : (observation.row clock).parentSpanId.isSome = true := by simp [RuntimeTraceObservation.row, below]
    constructor
    case isTrace => exact shows.isTrace
    case isRoot => exact (TraceTables.rootId_insert? inserted child _).trans shows.isRoot
    case spans =>
      intro id
      rw [TraceTables.spanOf_insert? inserted, shows.spans]
      by_cases same : id = observation.id
      · subst same
        rw [isOther, isStoredOther, isStored]
        simp [TraceView.stored, RuntimeTraceObservation.row]
      · simp [TraceView.spanOf, TraceView.store, RuntimeTraceObservation.row, same]
  | some span =>
    have matched : observation.matchesSpan span = true := by
      by_contra differs
      exact accepts ⟨span, isOther.trans isStored, by simpa using differs⟩
    have keeps : ∀ span, (observation.replace clock span).id = span.id := fun _ => rfl
    have stays : ∀ span, (observation.replace clock span).place = span.place := fun _ => rfl
    refine ⟨tables.updateSpan observation.id (observation.replace clock) keeps,
      by simp only [matched, ensure, if_true, ok_bind]; rfl, ?_⟩
    constructor
    case isTrace => exact shows.isTrace
    case isRoot => exact (TraceTables.rootId_updateSpan stays _).trans shows.isRoot
    case spans =>
      intro id
      rw [TraceTables.spanOf_updateSpan, shows.spans]
      by_cases same : id = observation.id
      · subst same
        rw [if_pos rfl, isOther, isStoredOther, isStored]
        rfl
      · simp [TraceView.spanOf, TraceView.store, same]

end Shows

/-! ## A batch on the tables and on the view -/

variable {view : TraceView} {tables : TraceTables} {requestId : Uuid} {first second : Effect Storage ApiError Unit}
  {name : String} {after : Bool × TraceView} {middle : TraceView} {value : ℕ}

/-- A program on the tables that ends as the view says, and succeeds if the view says so. -/
def Simulates (program : Effect Storage ApiError Unit) (requestId : Uuid) (tables : TraceTables) (after : Bool × TraceView) :
    Prop :=
  ∃ outcome next, program ⟨tables, none⟩ = (outcome, ⟨next, none⟩) ∧ after.2.Shows next requestId ∧ outcome.isOk = after.1

theorem simulates_pure (shows : view.Shows tables requestId) : Simulates (pure ()) requestId tables (true, view) :=
  ⟨.ok (), tables, rfl, shows, rfl⟩

theorem simulates_execute {run : TraceTables → TraceTables} (shows : view.Shows (run tables) requestId) :
    Simulates (execute run) requestId tables (true, view) :=
  ⟨.ok (), run tables, rfl, shows, rfl⟩

theorem simulates_bind (starts : Simulates first requestId tables (true, middle))
    (goes : ∀ next, middle.Shows next requestId → Simulates second requestId next after) :
    Simulates (do first; second) requestId tables after := by
  obtain ⟨outcome, next, isOutcome, shows, succeeds⟩ := starts
  obtain ⟨_, rfl⟩ := isOk_iff.mp succeeds
  obtain ⟨result, final, isFinal, atEnd, agrees⟩ := goes next shows
  exact ⟨result, final, (Effect.bind_of_ok isOutcome).trans isFinal, atEnd, agrees⟩

theorem simulates_bind_failed
    (stops : Simulates first requestId tables (false, middle)) : Simulates (do first; second) requestId tables (false, middle) := by
  obtain ⟨outcome, next, isOutcome, shows, fails⟩ := stops
  cases outcome with
  | ok value => contradiction
  | error error => exact ⟨.error error, next, Effect.bind_of_error isOutcome, shows, rfl⟩

theorem simulates_lift {check : Except ApiError Unit} {second : Effect Storage ApiError Unit}
    (passes : check = .ok ()) (goes : Simulates second requestId tables after) :
    Simulates (do Effect.lift check; second) requestId tables after := by
  obtain ⟨outcome, next, isOutcome, shows, agrees⟩ := goes
  refine ⟨outcome, next, ?_, shows, agrees⟩
  rw [passes]
  exact isOutcome

theorem simulates_observation (shows : view.Shows tables requestId) (clock : Clock) (description : Description) :
    Simulates (persistObservation clock requestId description.describe) requestId tables
      (view.observe clock (some description)) := by
  have reads : persistObservation clock requestId description.describe ⟨tables, none⟩ =
      storeObservation clock description.describe (some view.target) ⟨tables, none⟩ := by
    apply Effect.bind_of_ok
    rw [← shows.target]
    rfl
  have copied : description.describe view.target = (description.describe view.target).retarget view.target :=
    description.uniform _ _
  have ofTrace : (description.describe view.target).traceId = view.trace.id := by
    rw [copied]
    rfl
  have below : (description.describe view.target).parentSpanId = some view.root.id := by
    rw [copied]
    rfl
  rw [TraceView.observe]
  by_cases refuses : view.Refuses (description.describe view.target)
  · rw [if_pos refuses]
    refine ⟨.error TraceTables.observationConflict, tables, ?_, shows, rfl⟩
    rw [reads, storeObservation, statement, shows.upsert_refused clock refuses]
    rfl
  · rw [if_neg refuses]
    obtain ⟨_, next, isNext, after⟩ := shows.upsert_stored clock refuses ofTrace below
    refine ⟨.ok (), next, ?_, after, rfl⟩
    rw [reads, storeObservation, statement, isNext]
    rfl

theorem boundedOption_ok {bounded : String → ℕ → Except ApiError ℕ} {value : Option ℕ}
    (fits : ∀ number ∈ value, bounded name number = .ok number) : boundedOption bounded name value = .ok value := by
  cases value with
  | none => rfl
  | some number =>
    rw [boundedOption, fits number rfl]
    rfl

theorem boundedDuration_ok (fits : value ≤ maxTelemetryDurationMs) :
    boundedDuration name value = .ok value := by
  rw [boundedDuration, ensure, if_pos fits]
  rfl

theorem boundedTokens_ok (fits : value ≤ maxTelemetryTokenCount) : boundedTokens name value = .ok value := by
  rw [boundedTokens, ensure, if_pos fits]
  rfl

theorem checkStage_ok {stage : StageTelemetry} (valid : ValidStage stage) : checkStage stage = .ok () := by
  have ordered : ∀ endOffsetMs ∈ stage.endOffsetMs, stage.startOffsetMs ≤ endOffsetMs ∧ endOffsetMs ≤ maxTelemetryDurationMs := by
    have fits := valid.endOffset
    intro endOffsetMs isEnd
    rw [StageEnd, Option.mem_def.mp isEnd] at fits
    cases isStatus : stage.status with
    | started =>
      rw [isStatus] at fits
      exact fits.elim
    | completed =>
      rw [isStatus] at fits
      exact fits
    | failed =>
      rw [isStatus] at fits
      exact fits
  rw [checkStage, boundedDuration_ok valid.startOffset, ok_bind,
    boundedOption_ok fun number mem => boundedDuration_ok (ordered number mem).2, ok_bind, ensure,
    if_pos fun number mem => (ordered number mem).1, ok_bind,
    boundedOption_ok fun number mem => boundedDuration_ok (valid.elapsed number mem), ok_bind,
    boundedOption_ok fun number mem => boundedDuration_ok (valid.requestElapsed number mem), ok_bind,
    boundedOption_ok fun number mem => boundedTokens_ok (valid.inputTokens number mem), ok_bind,
    boundedOption_ok fun number mem => boundedTokens_ok (valid.outputTokens number mem)]
  rfl

theorem checkDelivery_ok {delivery : DeliveryTelemetry} (valid : ValidDelivery delivery) : checkDelivery delivery = .ok () := by
  have started : delivery.startOffsetMs ≤ maxTelemetryDurationMs := valid.offsets.1.trans valid.offsets.2
  rw [checkDelivery, boundedDuration_ok started, ok_bind, boundedDuration_ok valid.offsets.2, ok_bind, ensure,
    if_pos valid.offsets.1, ok_bind, boundedDuration_ok valid.elapsed]
  rfl

theorem simulates_mergeStage (shows : view.Shows tables requestId) (stage : StageTelemetry) :
    Simulates (mergeStage requestId stage) requestId tables
      (true, view.write (eventReport (.providerStage stage)).entries) := by
  rw [mergeStage, eventReport]
  by_cases started : stage.status = .started
  · simp only [if_pos started]
    exact simulates_pure shows
  · simp only [if_neg started]
    let entries : RootEntries :=
      { completionStartMs := completionStart stage, inputTokens := stage.inputTokens, outputTokens := stage.outputTokens }
    exact simulates_execute (shows.updateRoot entries.apply (fun _ => rfl) fun _ => rfl)

theorem simulates_event (shows : view.Shows tables requestId) (clock : Clock) {event : TraceTelemetry}
    (valid : ValidTelemetry event) :
    Simulates (persist clock requestId event) requestId tables (view.receive clock (eventReport event)) := by
  cases event with
  | invocationStarted providerKey capability model =>
    apply simulates_execute
    let entries := (eventReport (.invocationStarted providerKey capability model)).entries
    exact (shows.updateTrace entries.applyTrace fun _ => rfl).updateRoot entries.apply (fun _ => rfl) fun _ => rfl
  | providerStage stage =>
    apply simulates_lift (checkStage_ok valid)
    exact simulates_bind (simulates_mergeStage shows stage) fun _ after =>
      simulates_observation after clock ⟨stageObservation stage, fun _ _ => rfl⟩
  | delivery delivery =>
    apply simulates_lift (checkDelivery_ok valid)
    exact simulates_observation shows clock ⟨deliveryObservation delivery, fun _ _ => rfl⟩

theorem simulates_batchReport (shows : view.Shows tables requestId) (clock : Clock) (batch : TraceTelemetryBatch) :
    Simulates (do
      persistSummaries requestId batch.rootInputSummary batch.rootOutputSummary
      persistGap clock requestId batch.droppedEvents) requestId tables (view.receive clock (batchReport requestId batch)) := by
  have summarizes : Simulates (persistSummaries requestId batch.rootInputSummary batch.rootOutputSummary) requestId tables
      (true, view.write (batchReport requestId batch).entries) := by
    rw [persistSummaries]
    by_cases absent : batch.rootInputSummary.isNone ∧ batch.rootOutputSummary.isNone
    · rw [if_pos absent]
      have same : (batchReport requestId batch).entries = {} := by
        rw [batchReport, Option.isNone_iff_eq_none.mp absent.1, Option.isNone_iff_eq_none.mp absent.2]
        rfl
      rw [same]
      exact simulates_pure shows
    · rw [if_neg absent]
      have patches : ∀ attributes, (batchReport requestId batch).entries.patched attributes =
          jsonPatch attributes (TraceTables.traceIoMarker (batch.rootInputSummary.map summaryColumns)
            (batch.rootOutputSummary.map summaryColumns)) := by
        intro attributes
        rw [RootEntries.patched, if_neg]
        · rfl
        · simpa [batchReport] using absent
      apply simulates_execute
      rw [TraceView.write, RootEntries.apply, patches]
      let summarize : TraceSpan → TraceSpan := fun span =>
        { span with
          inputSummary := ((batch.rootInputSummary.map summaryColumns).map Prod.fst).or span.inputSummary
          outputSummary := ((batch.rootOutputSummary.map summaryColumns).map Prod.fst).or span.outputSummary
          attributes := jsonPatch span.attributes (TraceTables.traceIoMarker (batch.rootInputSummary.map summaryColumns)
            (batch.rootOutputSummary.map summaryColumns)) }
      exact shows.updateRoot summarize (fun _ => rfl) fun _ => rfl
  apply simulates_bind summarizes
  intro next after
  rw [persistGap, batchReport]
  by_cases none : batch.droppedEvents = 0
  · simp only [if_pos none]
    exact simulates_pure after
  · simp only [if_neg none]
    exact simulates_observation after clock ⟨gapObservation requestId batch.droppedEvents, fun _ _ => rfl⟩

theorem simulates_events {last : Effect Storage ApiError Unit} {report : Report} {clock : Clock}
    (ends : ∀ (view : TraceView) tables, view.Shows tables requestId →
      Simulates last requestId tables (view.receive clock report))
    {events : List TraceTelemetry} (valid : ∀ event ∈ events, ValidTelemetry event) (shows : view.Shows tables requestId) :
    Simulates (do Effect.each (persist clock requestId) events; last) requestId tables
      (run clock (events.map eventReport ++ [report]) view) := by
  induction events generalizing view tables with
  | nil =>
    have only : run clock ([].map eventReport ++ [report]) view = view.receive clock report := by
      rw [List.map_nil, List.nil_append, run]
      cases passes : (view.receive clock report).1 with
      | true => rw [if_pos rfl, run, ← passes]
      | false => rw [if_neg (by decide), ← passes]
    rw [only]
    exact ends view tables shows
  | cons event events ih =>
    rw [List.forall_mem_cons] at valid
    have starts := simulates_event shows clock valid.1
    have isRun : run clock ((event :: events).map eventReport ++ [report]) view =
        if (view.receive clock (eventReport event)).1 then
          run clock (events.map eventReport ++ [report]) (view.receive clock (eventReport event)).2
        else (false, (view.receive clock (eventReport event)).2) := rfl
    rw [isRun, Effect.each, Effect.bind_assoc]
    cases isResult : view.receive clock (eventReport event) with
    | mk passes after =>
      rw [isResult] at starts
      cases passes with
      | true =>
        exact simulates_bind starts fun _ goes => ih valid.2 goes
      | false => exact simulates_bind_failed starts

theorem simulates_persistBatch {floats : FloatText} {parser : JsonParser} {batch : TraceTelemetryBatch}
    (shows : view.Shows tables requestId) (clock : Clock) (valid : validateTraceTelemetryBatch floats parser batch = .ok ()) :
    Simulates (persistBatch floats parser clock requestId batch) requestId tables
      (run clock (batchReports requestId batch) view) := by
  apply simulates_lift (by rw [valid]; rfl)
  have events := (validateTraceTelemetryBatch_ok.mp valid).2.2.1
  exact simulates_events (fun _ _ after => simulates_batchReport after clock batch) events shows

end TraceView

end Vifu.Server
