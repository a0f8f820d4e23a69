import Vifu.Foundation.Table
import Vifu.Runtime.Store.Memory
import Vifu.Runtime.Store.Sqlite

/-!
# What the runtime relies on in a store

A working store keeps a snapshot for each session and a set of pending traces.  `WorkingStore`
says how the operations that succeed read and change the two, and `ReliableStore` when those on
snapshots succeed; both stores of the repository are working and reliable.
-/

namespace Vifu.Runtime

open Foundation

/-- The contents of a store, and what each successful operation does to them. -/
structure WorkingStore {σ : Type} (store : RuntimeStore σ) where
  snapshot : σ → (projectId sessionId : String) → Option RuntimeSnapshot
  traces : σ → List RuntimeTraceRecord
  load_ok : ∀ {state projectId sessionId found}, store.load state projectId sessionId = .ok found →
    found = snapshot state projectId sessionId
  save_snapshot : ∀ {state projectId sessionId saved next}, store.save state projectId sessionId saved = .ok next →
    ∀ project session, snapshot next project session =
      if (project, session) = (projectId, sessionId) then some saved else snapshot state project session
  save_traces : ∀ {state projectId sessionId saved next}, store.save state projectId sessionId saved = .ok next →
    traces next = traces state
  enqueue_snapshot : ∀ {state trace next}, store.enqueueTrace state trace = .ok next → snapshot next = snapshot state
  enqueue_traces : ∀ {state trace next}, store.enqueueTrace state trace = .ok next →
    ∀ pending ∈ traces next, pending = trace ∨ pending ∈ traces state
  pending_ok : ∀ {state limit pending}, store.pendingTraces state limit = .ok pending →
    ∀ trace ∈ pending, trace ∈ traces state
  acknowledge_snapshot : ∀ {state traceIds next}, store.acknowledgeTraces state traceIds = .ok next →
    snapshot next = snapshot state
  acknowledge_traces : ∀ {state traceIds next}, store.acknowledgeTraces state traceIds = .ok next →
    ∀ pending ∈ traces next, pending ∈ traces state

/-- The states in which the sessions of a store can be read and written, and the snapshots it takes. -/
structure ReliableStore {σ : Type} (store : RuntimeStore σ) where
  healthy : σ → Prop
  accepts : RuntimeSnapshot → Prop
  load_healthy : ∀ {state} projectId sessionId, healthy state → ∃ found, store.load state projectId sessionId = .ok found
  save_healthy : ∀ {state saved} projectId sessionId, healthy state → accepts saved →
    ∃ next, store.save state projectId sessionId saved = .ok next ∧ healthy next

variable {trace : RuntimeTraceRecord}

namespace MemoryRuntimeStore

theorem enqueueTrace_ok {store next : MemoryRuntimeStore} (enqueued : store.enqueueTrace trace = .ok next) :
    next.snapshots = store.snapshots ∧ ∀ pending ∈ next.traceOutbox, pending = trace ∨ pending ∈ store.traceOutbox := by
  unfold enqueueTrace at enqueued
  split at enqueued
  · cases enqueued
    exact ⟨rfl, fun pending mem => .inr mem⟩
  · cases enqueued
    refine ⟨rfl, fun pending mem => ?_⟩
    rcases List.mem_append.mp (List.mem_of_mem_drop mem) with earlier | isTrace
    · exact .inr earlier
    · exact .inl (List.mem_singleton.mp isTrace)

def working (codec : ManifestCodec) : WorkingStore (runtimeStore codec) where
  snapshot store projectId sessionId := store.snapshots.lookup (projectId, sessionId)
  traces := traceOutbox
  load_ok := by
    rintro _ _ _ _ ⟨⟩
    rfl
  save_snapshot := by
    rintro _ _ _ _ _ ⟨⟩ project session
    exact lookup_insert _ _ _ _
  save_traces := by
    rintro _ _ _ _ _ ⟨⟩
    rfl
  enqueue_snapshot := by
    intro _ _ _ enqueued
    simp only [(enqueueTrace_ok enqueued).1]
  enqueue_traces enqueued := (enqueueTrace_ok enqueued).2
  pending_ok := by
    rintro _ _ _ ⟨⟩ trace member
    exact List.mem_of_mem_take member
  acknowledge_snapshot := by
    rintro _ _ _ ⟨⟩
    rfl
  acknowledge_traces := by
    rintro _ _ _ ⟨⟩ pending member
    exact (List.mem_filter.mp member).1

def reliable (codec : ManifestCodec) : ReliableStore (runtimeStore codec) where
  healthy _ := True
  accepts _ := True
  load_healthy _ _ _ := ⟨_, rfl⟩
  save_healthy _ _ _ _ := ⟨_, rfl, trivial⟩

end MemoryRuntimeStore

/-- Every text that is written reads back as what was written. -/
def JsonCodec.Faithful {α : Type} (codec : JsonCodec α) : Prop :=
  ∀ value text, codec.toVec value = .ok text → codec.fromSlice text = .ok value

namespace SqliteRuntimeStore

variable {codec : StoreCodec}

def readSession (codec : StoreCodec) (row : SessionRow) : Option RuntimeSnapshot :=
  (codec.state.fromSlice row.stateJson).toOption.map fun state => { revision := row.revision, state }

def snapshot (codec : StoreCodec) (store : SqliteRuntimeStore) (projectId sessionId : String) :
    Option RuntimeSnapshot :=
  (store.sessions.lookup (projectId, sessionId)).bind (readSession codec)

/-- The records of the rows whose text can be read. -/
def traces (codec : StoreCodec) (store : SqliteRuntimeStore) : List RuntimeTraceRecord :=
  store.traceOutbox.filterMap fun row => (codec.trace.fromSlice row.payloadJson).toOption

theorem storeResult_ok {α : Type} {result : Except String α} {value : α} :
    storeResult result = .ok value ↔ result = .ok value := by
  cases result <;> simp [storeResult]

variable {store next : SqliteRuntimeStore} {projectId sessionId : String}

theorem mem_traces :
    trace ∈ traces codec store ↔ ∃ row ∈ store.traceOutbox, codec.trace.fromSlice row.payloadJson = .ok trace := by
  simp only [traces, List.mem_filterMap]
  constructor
  · rintro ⟨row, mem, reads⟩
    refine ⟨row, mem, ?_⟩
    cases text : codec.trace.fromSlice row.payloadJson with
    | error message => simp [text, Except.toOption] at reads
    | ok record =>
      simp only [text, Except.toOption, Option.some.injEq] at reads
      rw [reads]
  · rintro ⟨row, mem, reads⟩
    exact ⟨row, mem, by simp [reads, Except.toOption]⟩

theorem load_ok {found : Option RuntimeSnapshot}
    (loaded : load codec store projectId sessionId = .ok found) : found = snapshot codec store projectId sessionId := by
  unfold load at loaded
  unfold snapshot
  cases row : store.sessions.lookup (projectId, sessionId) with
  | none =>
    rw [row] at loaded
    cases loaded
    rfl
  | some row' =>
    rw [row] at loaded
    obtain ⟨state, reads, same⟩ := bind_ok.mp loaded
    cases same
    simp [readSession, storeResult_ok.mp reads, Except.toOption]

theorem save_ok {saved : RuntimeSnapshot} (succeeds : save codec store projectId sessionId saved = .ok next) :
    ∃ stateJson, codec.state.toVec saved.state = .ok stateJson ∧ next = { store with
      sessions := store.sessions.insert (projectId, sessionId) { revision := saved.revision, stateJson } } := by
  obtain ⟨stateJson, encoded, rest⟩ := bind_ok.mp succeeds
  obtain ⟨revision, converted, same⟩ := bind_ok.mp rest
  obtain ⟨_, rfl⟩ := toI64_ok.mp converted
  cases same
  exact ⟨stateJson, storeResult_ok.mp encoded, rfl⟩

theorem enqueueTrace_ok (enqueued : enqueueTrace codec store trace = .ok next) :
    next.sessions = store.sessions ∧ ∀ row ∈ next.traceOutbox,
      codec.trace.toVec trace = .ok row.payloadJson ∨ row ∈ store.traceOutbox := by
  obtain ⟨payloadJson, encoded, rest⟩ := bind_ok.mp enqueued
  obtain ⟨createdAtMs, converted, same⟩ := bind_ok.mp rest
  cases same
  refine ⟨rfl, fun row mem => ?_⟩
  have kept := (List.mem_filter.mp mem).1
  split at kept
  · exact .inr kept
  · rcases List.mem_cons.mp kept with rfl | earlier
    · exact .inl (storeResult_ok.mp encoded)
    · exact .inr earlier

theorem mem_of_mem_acknowledged {traceIds : List String} {rows : List TraceRow} {row : TraceRow}
    (mem : row ∈ traceIds.foldl (fun rows traceId => rows.filter (·.traceId ≠ traceId)) rows) : row ∈ rows := by
  induction traceIds generalizing rows with
  | nil => exact mem
  | cons traceId traceIds ih => exact (List.mem_filter.mp (ih mem)).1

theorem mem_of_pendingTraces {limit : ℕ} {pending : List RuntimeTraceRecord}
    (returned : pendingTraces codec store limit = .ok pending) :
    ∀ trace ∈ pending, ∃ row ∈ store.traceOutbox, codec.trace.fromSlice row.payloadJson = .ok trace := by
  intro trace mem
  obtain ⟨row, isRow, reads⟩ := mem_of_mapM_ok returned mem
  refine ⟨row, ?_, storeResult_ok.mp reads⟩
  exact (List.mem_insertionSort _).mp (List.mem_of_mem_take isRow)

/-- The tables hold what the operations say when the texts they write can be read. -/
def working (codec : StoreCodec) (states : codec.state.Faithful) (records : codec.trace.Faithful) :
    WorkingStore (runtimeStore codec) where
  snapshot := snapshot codec
  traces := traces codec
  load_ok := load_ok
  save_snapshot := by
    intro _ _ _ saved _ succeeds project session
    obtain ⟨stateJson, encoded, rfl⟩ := save_ok succeeds
    have reads := states _ _ encoded
    simp only [snapshot, lookup_insert]
    split
    · simp [readSession, reads, Except.toOption]
    · rfl
  save_traces := by
    intro _ _ _ _ _ succeeds
    obtain ⟨_, _, rfl⟩ := save_ok succeeds
    rfl
  enqueue_snapshot := by
    intro _ _ _ enqueued
    funext projectId sessionId
    simp only [snapshot, (enqueueTrace_ok enqueued).1]
  enqueue_traces := by
    intro _ trace _ enqueued pending member
    obtain ⟨row, isRow, reads⟩ := mem_traces.mp member
    rcases (enqueueTrace_ok enqueued).2 row isRow with encoded | earlier
    · rw [records _ _ encoded] at reads
      cases reads
      exact .inl rfl
    · exact .inr (mem_traces.mpr ⟨row, earlier, reads⟩)
  pending_ok returned := fun trace member => mem_traces.mpr (mem_of_pendingTraces returned trace member)
  acknowledge_snapshot := by
    rintro _ _ _ ⟨⟩
    rfl
  acknowledge_traces := by
    rintro _ _ _ ⟨⟩ pending member
    obtain ⟨row, isRow, reads⟩ := mem_traces.mp member
    exact mem_traces.mpr ⟨row, mem_of_mem_acknowledged isRow, reads⟩

/-- Every text in the table of sessions can be read. -/
def Readable (codec : StoreCodec) (store : SqliteRuntimeStore) : Prop :=
  ∀ key row, store.sessions.lookup key = some row → ∃ state, codec.state.fromSlice row.stateJson = .ok state

/-- The revision fits the column, and the state can be written. -/
def Storable (codec : StoreCodec) (snapshot : RuntimeSnapshot) : Prop :=
  snapshot.revision < i64Bound ∧ ∃ stateJson, codec.state.toVec snapshot.state = .ok stateJson

theorem load_readable (readable : Readable codec store) (projectId sessionId : String) :
    ∃ found, load codec store projectId sessionId = .ok found := by
  unfold load
  split
  next => exact ⟨none, rfl⟩
  next row stored =>
    obtain ⟨state, reads⟩ := readable _ row stored
    exact ⟨some { revision := row.revision, state }, bind_ok.mpr ⟨state, storeResult_ok.mpr reads, rfl⟩⟩

theorem save_readable {snapshot : RuntimeSnapshot} (states : codec.state.Faithful)
    (projectId sessionId : String) (readable : Readable codec store) (storable : Storable codec snapshot) :
    ∃ next, save codec store projectId sessionId snapshot = .ok next ∧ Readable codec next := by
  obtain ⟨small, stateJson, encoded⟩ := storable
  refine ⟨{ store with
      sessions := store.sessions.insert (projectId, sessionId) { revision := snapshot.revision, stateJson } }, ?_, ?_⟩
  · apply bind_ok.mpr
    refine ⟨stateJson, storeResult_ok.mpr encoded, bind_ok.mpr ⟨snapshot.revision, toI64_ok.mpr ⟨small, rfl⟩, rfl⟩⟩
  · intro key row stored
    rw [lookup_insert] at stored
    split at stored
    · cases stored
      exact ⟨snapshot.state, states _ _ encoded⟩
    · exact readable key row stored

/-- The tables take snapshots whose revision fits the column. -/
def reliable (codec : StoreCodec) (states : codec.state.Faithful) : ReliableStore (runtimeStore codec) where
  healthy := Readable codec
  accepts := Storable codec
  load_healthy projectId sessionId readable := load_readable readable projectId sessionId
  save_healthy projectId sessionId := save_readable states projectId sessionId

end SqliteRuntimeStore

end Vifu.Runtime
