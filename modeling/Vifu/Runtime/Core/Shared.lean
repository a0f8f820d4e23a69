import Vifu.Runtime.Core.Traces
import Vifu.Runtime.Store.Outbox

/-!
# Runtimes that share a store

Any number of runtimes, of the same or of other projects, may be opened on one SQLite store, at
once or after one another.  Each numbers its invocations from 1, and the table has one row for
each trace id.  A trace id is made of the millisecond in which the invocation began and of its
number, so two runtimes can make the same one; and what the outbox returns is not restricted to a
project.
-/

namespace Vifu.Runtime

open Foundation

namespace CoreState

variable {σ : Type}

def pendingTraces (host : RuntimeHost σ) (state : CoreState σ) (limit : ℕ) :
    Except RuntimeError (List RuntimeTraceRecord) :=
  host.store.pendingTraces state.store (min limit 1000)

theorem enqueueTrace_store {host : RuntimeHost σ} (state : CoreState σ) (trace : RuntimeTraceRecord) :
    (state.enqueueTrace host trace).store = (host.store.enqueueTrace state.store trace).toOption.getD state.store := by
  unfold enqueueTrace
  cases host.store.enqueueTrace state.store trace <;> rfl

def madeRecord (state : CoreState σ) : CoreAction → Option RuntimeTraceRecord
  | .run handle (.trace elapsedMs) =>
    (state.calls.lookup handle).bind fun invocation =>
      match invocation.phase with
      | .returned result => some (state.traceRecord handle invocation result elapsedMs)
      | _ => none
  | _ => none

end CoreState

def sqliteHost (codec : StoreCodec) (snapshots : JsonCodec PortableProjectSnapshot) :
    RuntimeHost SqliteRuntimeStore where
  store := SqliteRuntimeStore.runtimeStore codec
  snapshots := snapshots
  manifests := codec.manifest

/-- The store and the runtimes that have been opened on it.  The last two fields are for the
    statements of results only: every record that an invocation has made, and those that have not
    been acknowledged since, the oldest first. -/
structure SharedState where
  store : SqliteRuntimeStore
  runtimes : List (CoreState SqliteRuntimeStore)
  recorded : List RuntimeTraceRecord
  unacknowledged : List RuntimeTraceRecord

inductive SharedAction where
  | launch (projectId : String)
  | act (runtime : ℕ) (action : CoreAction)

namespace SharedState

def remaining (unacknowledged : List RuntimeTraceRecord) (made : Option RuntimeTraceRecord) :
    CoreAction → List RuntimeTraceRecord
  | .acknowledgeTraces traceIds => unacknowledged.filter (·.id ∉ traceIds)
  | _ => unacknowledged ++ made.toList

/-- One action of one runtime, which finds the shared store as the others have left it. -/
def step (host : RuntimeHost SqliteRuntimeStore) (state : SharedState) : SharedAction → Option SharedState
  | .launch projectId =>
    match RuntimeCore.new projectId with
    | .ok core => some { state with runtimes := state.runtimes ++ [.opened core state.store] }
    | .error _ => none
  | .act index action =>
    (state.runtimes[index]?).bind fun runtime =>
      let runtime := { runtime with store := state.store }
      (runtime.step host action).map fun next =>
        { store := next.store
          runtimes := state.runtimes.set index next
          recorded := state.recorded ++ (runtime.madeRecord action).toList
          unacknowledged := remaining state.unacknowledged (runtime.madeRecord action) action }

def initial : SharedState where
  store := .empty
  runtimes := []
  recorded := []
  unacknowledged := []

def machine (codec : StoreCodec) (snapshots : JsonCodec PortableProjectSnapshot) : Machine SharedState SharedAction where
  start state := state = initial
  step state action := state.step (sqliteHost codec snapshots) action

variable {codec : StoreCodec} {snapshots : JsonCodec PortableProjectSnapshot}
  {state next : CoreState SqliteRuntimeStore} {action : CoreAction}

/-! ## What an action does to the outbox -/

/-- The three ways in which an action treats the outbox. -/
inductive OutboxStep (codec : StoreCodec) (state : CoreState SqliteRuntimeStore) (store : SqliteRuntimeStore) :
    CoreAction → Prop where
  | keep (action : CoreAction) (other : ∀ traceIds, action ≠ .acknowledgeTraces traceIds)
    (unmade : state.madeRecord action = none) (same : store.traceOutbox = state.store.traceOutbox) :
    OutboxStep codec state store action
  | record (action : CoreAction) (record : RuntimeTraceRecord) (made : state.madeRecord action = some record)
    (other : ∀ traceIds, action ≠ .acknowledgeTraces traceIds)
    (next : store = (SqliteRuntimeStore.enqueueTrace codec state.store record).toOption.getD state.store) :
    OutboxStep codec state store action
  | acknowledge (traceIds : List String)
    (next : SqliteRuntimeStore.acknowledgeTraces state.store traceIds = .ok store) :
    OutboxStep codec state store (.acknowledgeTraces traceIds)

open CoreState in
theorem run_outbox {handle : InvocationHandle} {invocation : Invocation}
    {piece : InvocationSection} (stored : state.calls.lookup handle = some invocation)
    (ran : SectionStep (sqliteHost codec snapshots) state handle invocation piece next) :
    OutboxStep codec state next.store (.run handle piece) := by
  -- only `trace` makes a record, and it is enabled in one phase
  have unmade : (∀ elapsedMs, piece ≠ .trace elapsedMs) → state.madeRecord (.run handle piece) = none := by
    intro other
    cases piece with
    | trace elapsedMs => exact absurd rfl (other elapsedMs)
    | _ => rfl
  have quiet : state.madeRecord (.run handle piece) = none → next.store.traceOutbox = state.store.traceOutbox →
      OutboxStep codec state next.store (.run handle piece) := .keep _ nofun
  have unreturned : (∀ result, invocation.phase ≠ .returned result) → state.madeRecord (.run handle piece) = none := by
    intro running
    cases piece with
    | trace elapsedMs =>
      cases phase : invocation.phase with
      | returned result => exact absurd phase (running result)
      | _ => simp [madeRecord, stored, phase]
    | _ => rfl
  cases ran with
  | trace elapsedMs result returned =>
    apply OutboxStep.record _ (state.traceRecord handle invocation result elapsedMs)
    · simp only [madeRecord, stored, Option.bind_some, returned]
    · exact nofun
    · exact enqueueTrace_store state _
  | save _ _ _ store _ saves =>
    obtain ⟨_, _, rfl⟩ := SqliteRuntimeStore.save_ok saves
    exact quiet (unmade nofun) rfl
  | begin | reject =>
    rw [announce_eq]
    exact .keep _ nofun (unmade nofun) rfl
  | publish =>
    rw [report_eq]
    exact .keep _ nofun (unmade nofun) rfl
  | leave _ _ entering => exact .keep _ nofun (unreturned (by rw [entering]; exact nofun)) rfl
  | fail _ _ held =>
    refine .keep _ nofun (unreturned fun result returned => ?_) rfl
    rw [returned] at held
    exact held rfl
  | acquire | resolve | check | read | miss | load | cache | emit | respond | idle | recheck | insert | finish | failWritten
  | drop => exact .keep _ nofun (unmade nofun) rfl

open CoreState in
theorem step_outbox
    (stepped : state.step (sqliteHost codec snapshots) action = some next) : OutboxStep codec state next.store action := by
  cases action with
  | run handle piece =>
    obtain ⟨invocation, stored, ran⟩ := Option.bind_eq_some_iff.mp stepped
    exact run_outbox stored (runSection_step ran)
  | acknowledgeTraces traceIds =>
    cases stepped
    exact .acknowledge traceIds rfl
  | restoreSession call session =>
    refine .keep _ nofun rfl ?_
    cases step_step stepped with
    | restoreSession _ _ _ _ _ _ _ _ _ _ saves =>
      obtain ⟨_, _, rfl⟩ := SqliteRuntimeStore.save_ok saves
      rfl
    | stay | restoreFail => rfl
  | _ =>
    -- the other actions leave the store alone
    refine .keep _ nofun rfl ?_
    cases step_step stepped <;> rfl

/-- A record enters a shared outbox: its id is new, every runtime on the store is of its project, the
    outbox is not full, the timestamp fits the column, and the JSON of the record reads back. -/
def Enters (codec : StoreCodec) (state : SharedState) (record : RuntimeTraceRecord) : Prop :=
  record.id ∉ state.recorded.map (·.id) ∧
    (∀ runtime ∈ state.runtimes, runtime.projectId = record.projectId) ∧
    state.unacknowledged.length < maxTraceOutboxRecords ∧ record.createdAtMs < i64Bound ∧
    codec.trace.RoundTrips record

/-- No two invocations make the same trace id, and no two projects use the outbox at once. -/
def Unmixed (codec : StoreCodec) (state : SharedState) : SharedAction → Prop
  | .launch projectId => ∀ record ∈ state.unacknowledged, record.projectId = projectId
  | .act index action => ∀ runtime, state.runtimes[index]? = some runtime →
    ∀ record, runtime.madeRecord action = some record → Enters codec state record

instance decidableRoundTrips {α : Type} [DecidableEq α] (codec : JsonCodec α) (value : α) :
    Decidable (codec.RoundTrips value) :=
  decidable_of_iff (∃ bytes ∈ (codec.toVec value).toOption, codec.fromSlice bytes = .ok value) (by
    unfold JsonCodec.RoundTrips
    cases codec.toVec value <;> simp [Except.toOption])

instance decidableEnters (codec : StoreCodec) (state : SharedState) (record : RuntimeTraceRecord) :
    Decidable (Enters codec state record) :=
  inferInstanceAs (Decidable (_ ∧ _ ∧ _ ∧ _ ∧ _))

instance decidableUnmixed (codec : StoreCodec) (state : SharedState) : ∀ action, Decidable (Unmixed codec state action)
  | .launch _ => inferInstanceAs (Decidable (∀ _ ∈ _, _))
  | .act _ _ => inferInstanceAs (Decidable (∀ _, _ → ∀ _, _ → Enters _ _ _))

/-! ## The outbox of every run -/

def outboxOf (records : List RuntimeTraceRecord) : MemoryRuntimeStore :=
  { MemoryRuntimeStore.empty with traceOutbox := records }

/-- The table holds the unacknowledged records, which are all of the project of every runtime. -/
structure Sharing (codec : StoreCodec) (state : SharedState) : Prop where
  same : SameTraces codec (outboxOf state.unacknowledged) state.store
  distinct : (state.recorded.map (·.id)).Nodup
  made : ∀ record ∈ state.unacknowledged, record ∈ state.recorded
  single : ∀ runtime ∈ state.runtimes, ∀ record ∈ state.unacknowledged, record.projectId = runtime.projectId

theorem same_of_outbox {memory : MemoryRuntimeStore} {sqlite next : SqliteRuntimeStore}
    (same : SameTraces codec memory sqlite) (outbox : next.traceOutbox = sqlite.traceOutbox) :
    SameTraces codec memory next :=
  ⟨outbox.trans same.rows, same.distinct, same.bounded, same.readable⟩

theorem same_of_enters {records : List RuntimeTraceRecord} {sqlite : SqliteRuntimeStore} {record : RuntimeTraceRecord}
    (same : SameTraces codec (outboxOf records) sqlite) (fresh : ∀ other ∈ records, other.id ≠ record.id)
    (room : records.length < maxTraceOutboxRecords) (fits : record.createdAtMs < i64Bound)
    (readable : codec.trace.RoundTrips record) : SameTraces codec (outboxOf (records ++ [record]))
      ((SqliteRuntimeStore.enqueueTrace codec sqlite record).toOption.getD sqlite) := by
  have admitted : EvictsFirst (outboxOf records) (.enqueueTrace record) := by
    refine ⟨fits, fun _ full => ?_⟩
    have length : records.length = (outboxOf records).traceOutbox.length := rfl
    omega
  obtain ⟨left, right, leftStores, rightStores, remain⟩ := enqueueTrace_same same admitted readable
  have unstored : (outboxOf records).traceOutbox.any (·.id = record.id) = false := by
    simpa [outboxOf] using fresh
  have isLeft : left = outboxOf (records ++ [record]) := by
    have small : (records ++ [record]).length - maxTraceOutboxRecords = 0 := by
      simp only [List.length_append, List.length_singleton]
      omega
    simp only [MemoryRuntimeStore.enqueueTrace, unstored, Bool.false_eq_true, if_false] at leftStores
    rw [← Except.ok.inj leftStores]
    show outboxOf ((records ++ [record]).drop ((records ++ [record]).length - maxTraceOutboxRecords)) = _
    rw [small, List.drop_zero]
  rw [rightStores]
  exact isLeft ▸ remain

theorem Sharing.act {state : SharedState} (sharing : Sharing codec state) {runtime : CoreState SqliteRuntimeStore}
    {store : SqliteRuntimeStore} (shared : runtime.store = state.store)
    (admitted : ∀ record, runtime.madeRecord action = some record → Enters codec state record)
    (outbox : OutboxStep codec runtime store action) :
    SameTraces codec (outboxOf (remaining state.unacknowledged (runtime.madeRecord action) action)) store ∧
      ((state.recorded ++ (runtime.madeRecord action).toList).map (·.id)).Nodup ∧
      ∀ record ∈ remaining state.unacknowledged (runtime.madeRecord action) action,
        record ∈ state.recorded ++ (runtime.madeRecord action).toList := by
  have same := sharing.same
  rw [← shared] at same
  have remains : (∀ traceIds, action ≠ .acknowledgeTraces traceIds) →
      remaining state.unacknowledged (runtime.madeRecord action) action =
        state.unacknowledged ++ (runtime.madeRecord action).toList := by
    intro other
    cases action with
    | acknowledgeTraces traceIds => exact absurd rfl (other traceIds)
    | _ => rfl
  cases outbox with
  | keep _ other unmade unchanged =>
    rw [remains other, unmade, Option.toList_none, List.append_nil, List.append_nil]
    exact ⟨same_of_outbox same unchanged, sharing.distinct, sharing.made⟩
  | record _ record made other next =>
    obtain ⟨fresh, _, room, fits, readable⟩ := admitted record made
    have new : ∀ stored ∈ state.unacknowledged, stored.id ≠ record.id := by
      intro stored mem sameId
      exact fresh (sameId ▸ List.mem_map_of_mem (sharing.made stored mem))
    rw [remains other, made, next]
    constructor
    · exact same_of_enters same new room fits readable
    · constructor
      · apply distinct_append sharing.distinct
        intro stored mem sameId
        exact fresh (sameId ▸ List.mem_map_of_mem mem)
      · intro pending mem
        rw [List.mem_append] at mem ⊢
        exact mem.imp (sharing.made pending) id
  | acknowledge traceIds next =>
    cases next
    refine ⟨acknowledgeTraces_same same traceIds, ?_, fun record mem => ?_⟩
    · have unmade : (runtime.madeRecord (.acknowledgeTraces traceIds)).toList = [] := rfl
      rw [unmade, List.append_nil]
      exact sharing.distinct
    · exact List.mem_append_left _ (sharing.made record (List.mem_filter.mp mem).1)

theorem Sharing.step {state next : SharedState} {action : SharedAction} (sharing : Sharing codec state)
    (admitted : Unmixed codec state action) (stepped : state.step (sqliteHost codec snapshots) action = some next) :
    Sharing codec next := by
  cases action with
  | launch projectId =>
    simp only [SharedState.step] at stepped
    split at stepped
    next core launched =>
      cases stepped
      obtain ⟨_, rfl⟩ := RuntimeCore.new_ok.mp launched
      refine ⟨sharing.same, sharing.distinct, sharing.made, fun runtime mem record pending => ?_⟩
      cases List.mem_append.mp mem with
      | inl earlier => exact sharing.single runtime earlier record pending
      | inr isNew =>
        rw [List.mem_singleton.mp isNew]
        exact admitted record pending
    next => cases stepped
  | act index action =>
    obtain ⟨runtime, isRuntime, mapped⟩ := Option.bind_eq_some_iff.mp stepped
    obtain ⟨moved, ran, rfl⟩ := Option.map_eq_some_iff.mp mapped
    have enters := admitted runtime isRuntime
    have shared : { runtime with store := state.store }.store = state.store := rfl
    obtain ⟨same, distinct, made⟩ := sharing.act shared enters (step_outbox ran)
    refine ⟨same, distinct, made, fun other mem record pending => ?_⟩
    -- the acting runtime keeps its project
    have project : ∃ earlier ∈ state.runtimes, other.projectId = earlier.projectId := by
      cases List.mem_or_eq_of_mem_set mem with
      | inl earlier => exact ⟨other, earlier, rfl⟩
      | inr isMoved =>
        refine ⟨runtime, List.mem_of_getElem? isRuntime, ?_⟩
        rw [isMoved]
        exact (CoreState.step_step ran).projectId
    obtain ⟨earlier, isEarlier, sameProject⟩ := project
    rw [sameProject]
    have mem : record ∈ state.unacknowledged ∨ runtime.madeRecord action = some record := by
      cases action with
      | acknowledgeTraces traceIds => exact .inl (List.mem_filter.mp pending).1
      | _ =>
        exact (List.mem_append.mp pending).imp id Option.mem_toList.mp
    cases mem with
    | inl stored => exact sharing.single earlier isEarlier record stored
    | inr isMade => exact ((enters record isMade).2.1 earlier isEarlier).symm

/-- No two invocations have made the same trace id, and each runtime's `pending_traces` returns
    exactly the unacknowledged records of its project. -/
structure TracesKept (codec : StoreCodec) (snapshots : JsonCodec PortableProjectSnapshot) (state : SharedState) : Prop where
  distinct : (state.recorded.map (·.id)).Nodup
  pending : ∀ runtime ∈ state.runtimes, ∀ limit, state.unacknowledged.length ≤ limit →
    ∃ pending, CoreState.pendingTraces (sqliteHost codec snapshots) { runtime with store := state.store } limit =
        .ok pending ∧
      pending.Perm (state.unacknowledged.filter (·.projectId = runtime.projectId))

def rejectedTrace (projectId : String) (createdAtMs : ℕ) : RuntimeTraceRecord where
  id := "trace-" ++ toString createdAtMs ++ "-invocation-1"
  projectId := projectId
  invocationId := "invocation-1"
  endpoint := "town-guide"
  agent := none
  provider := none
  capability := none
  status := "error"
  durationMs := 0
  createdAtMs := createdAtMs

def rejectedTraceJson (trace : RuntimeTraceRecord) : String :=
  "\x7b\"id\":\"" ++ trace.id ++ "\",\"projectId\":\"" ++ trace.projectId ++
  "\",\"invocationId\":\"invocation-1\",\"endpoint\":\"town-guide\",\"status\":\"error\"," ++
  "\"durationMs\":0,\"createdAtMs\":" ++ toString trace.createdAtMs ++ "\x7d"

/-- Two projects at one time, and the first again a millisecond later. -/
def rejectedTraces : List RuntimeTraceRecord :=
  [rejectedTrace "town" 1700000000000, rejectedTrace "harbor" 1700000000000, rejectedTrace "town" 1700000000001]

def rejectedCodec : StoreCodec where
  manifest := guideCodec "chat"
  state := ⟨fun _ => .error "unknown value", fun _ => .error "unknown text"⟩
  trace :=
    { toVec := fun trace =>
        if trace ∈ rejectedTraces then .ok (rejectedTraceJson trace).toUTF8.data.toList else .error "unknown record"
      fromSlice := fun bytes =>
        match rejectedTraces.find? (fun trace => (rejectedTraceJson trace).toUTF8.data.toList = bytes) with
        | some trace => .ok trace
        | none => .error "unknown text" }

def firstCalls (unixTimeMs : ℕ) : List CoreAction :=
  List.append [.createToken, .invoke townInput ⟨0⟩]
    (List.map (.run (invocationId 1)) [.begin unixTimeMs, .acquire, .resolve, .trace 0])

def firstInvocation (runtime unixTimeMs : ℕ) : List SharedAction := (firstCalls unixTimeMs).map (.act runtime)

end SharedState

end Vifu.Runtime
