import Mathlib.Data.List.Perm.Basic
import Vifu.Foundation.Lockstep
import Vifu.Runtime.Store.Memory
import Vifu.Runtime.Store.Sqlite

/-!
# The trace outbox in the two stores

One store keeps the traces in the order in which they came, the other orders them by their
timestamp and id; each evicts the first in its order when it holds more than 1000.
-/

namespace Vifu.Runtime

open Foundation

inductive OutboxOperation where
  | enqueueTrace (trace : RuntimeTraceRecord)
  | pendingTraces (limit : ℕ)
  | acknowledgeTraces (traceIds : List String)

inductive OutboxReply where
  | done
  | traces (pending : List RuntimeTraceRecord)
  deriving DecidableEq, Repr

def serveOutbox {σ : Type} (store : RuntimeStore σ) (state : σ) :
    OutboxOperation → Except RuntimeError OutboxReply × σ
  | .enqueueTrace trace =>
    match store.enqueueTrace state trace with
    | .ok next => (.ok .done, next)
    | .error error => (.error error, state)
  | .pendingTraces limit => ((store.pendingTraces state limit).map .traces, state)
  | .acknowledgeTraces traceIds =>
    match store.acknowledgeTraces state traceIds with
    | .ok next => (.ok .done, next)
    | .error error => (.error error, state)

theorem ColumnsBefore.total (left right : ℕ × String) : ColumnsBefore left right ∨ ColumnsBefore right left := by
  rcases lt_trichotomy left.1 right.1 with earlier | same | later
  · exact .inl (.inl earlier)
  · rcases le_total left.2 right.2 with smaller | larger
    · exact .inl (.inr ⟨same, smaller⟩)
    · exact .inr (.inr ⟨same.symm, larger⟩)
  · exact .inr (.inl later)

theorem ColumnsBefore.trans {first second third : ℕ × String} (before : ColumnsBefore first second)
    (after : ColumnsBefore second third) : ColumnsBefore first third := by
  rcases before with earlier | ⟨same, smaller⟩
  · rcases after with later | ⟨again, _⟩
    · exact .inl (earlier.trans later)
    · exact .inl (earlier.trans_eq again)
  · rcases after with later | ⟨again, larger⟩
    · exact .inl (same.trans_lt later)
    · exact .inr ⟨same.trans again, smaller.trans larger⟩

theorem ColumnsBefore.antisymm {left right : ℕ × String} (before : ColumnsBefore left right)
    (after : ColumnsBefore right left) : left.2 = right.2 := by
  rcases before with earlier | ⟨same, smaller⟩
  · rcases after with later | ⟨again, _⟩ <;> omega
  · rcases after with later | ⟨_, larger⟩
    · omega
    · exact le_antisymm smaller larger

instance totalAfter : Std.Total fun left right : TraceRow => right.Before left :=
  ⟨fun _ _ => ColumnsBefore.total _ _⟩
instance transAfter : IsTrans TraceRow fun left right => right.Before left :=
  ⟨fun _ _ _ before after => ColumnsBefore.trans after before⟩

def RuntimeTraceRecord.Before (left right : RuntimeTraceRecord) : Prop :=
  ColumnsBefore (left.createdAtMs, left.id) (right.createdAtMs, right.id)

instance decidableTraceBefore : DecidableRel RuntimeTraceRecord.Before :=
  fun _ _ => inferInstanceAs (Decidable (_ ∨ _))
instance totalTraceBefore : Std.Total RuntimeTraceRecord.Before := ⟨fun _ _ => ColumnsBefore.total _ _⟩
instance transTraceBefore : IsTrans RuntimeTraceRecord RuntimeTraceRecord.Before :=
  ⟨fun _ _ _ => ColumnsBefore.trans⟩

namespace SqliteRuntimeStore

variable {rows : List TraceRow}

theorem retain_of_length_le (bounded : rows.length ≤ maxTraceOutboxRecords) : retain rows = rows := by
  have none : (rows.insertionSort fun left right => right.Before left).drop maxTraceOutboxRecords = [] := by
    rw [List.drop_eq_nil_iff, List.length_insertionSort]
    exact bounded
  simp [retain, none]

theorem retain_of_length_eq (full : rows.length = maxTraceOutboxRecords + 1)
    {oldest : TraceRow} (mem : oldest ∈ rows) (first : ∀ row ∈ rows, oldest.Before row) :
    retain rows = rows.filter (·.traceId ≠ oldest.traceId) := by
  have nonempty : (rows.insertionSort fun left right => right.Before left) ≠ [] := by
    intro empty
    have length := congrArg List.length empty
    rw [List.length_insertionSort, List.length_nil] at length
    omega
  obtain ⟨newer, last, split⟩ := List.eq_nil_or_concat _ |>.resolve_left nonempty
  have sorted := List.pairwise_insertionSort (fun left right : TraceRow => right.Before left) rows
  have isLast : last.traceId = oldest.traceId := by
    rw [split, List.concat_eq_append] at sorted
    have stored : oldest ∈ newer ++ [last] := by
      rw [← List.concat_eq_append, ← split, List.mem_insertionSort]
      exact mem
    have lastStored : last ∈ rows := by
      rw [← List.mem_insertionSort (fun left right : TraceRow => right.Before left), split]
      simp
    rcases List.mem_append.mp stored with earlier | isOldest
    · have after := (List.pairwise_append.mp sorted).2.2 oldest earlier last List.mem_cons_self
      exact ColumnsBefore.antisymm after (first last lastStored)
    · rw [List.mem_singleton.mp isOldest]
  have length : newer.length = maxTraceOutboxRecords := by
    have total := congrArg List.length split
    rw [List.length_insertionSort, List.length_concat] at total
    omega
  have deleted : (rows.insertionSort fun left right => right.Before left).drop maxTraceOutboxRecords = [last] := by
    rw [split, List.concat_eq_append, ← length, List.drop_left]
  simp [retain, deleted, isLast]

end SqliteRuntimeStore

theorem SqliteRuntimeStore.acknowledge_rows (traceIds : List String) (rows : List TraceRow) :
    traceIds.foldl (fun rows traceId => rows.filter (·.traceId ≠ traceId)) rows =
      rows.filter (·.traceId ∉ traceIds) := by
  induction traceIds generalizing rows with
  | nil => simp
  | cons traceId traceIds ih =>
    rw [List.foldl_cons, ih, List.filter_filter]
    apply List.filter_congr
    intro row _
    simp [Bool.and_comm]

/-! ## The rows of the traces -/

variable {codec : StoreCodec}

def traceRow (codec : StoreCodec) (trace : RuntimeTraceRecord) : TraceRow where
  traceId := trace.id
  projectId := trace.projectId
  payloadJson := (codec.trace.toVec trace).toOption.getD []
  createdAtMs := trace.createdAtMs

/-- The table holds the rows of the traces in memory, the last one first. -/
structure SameTraces (codec : StoreCodec) (memory : MemoryRuntimeStore) (sqlite : SqliteRuntimeStore) : Prop where
  rows : sqlite.traceOutbox = memory.traceOutbox.reverse.map (traceRow codec)
  distinct : (memory.traceOutbox.map (·.id)).Nodup
  bounded : memory.traceOutbox.length ≤ maxTraceOutboxRecords
  readable : ∀ trace ∈ memory.traceOutbox, codec.trace.RoundTrips trace

/-- The timestamp fits in `i64`, and a full outbox evicts a trace that is first in the order of
    the table too. -/
def EvictsFirst (memory : MemoryRuntimeStore) : OutboxOperation → Prop
  | .enqueueTrace trace =>
    trace.createdAtMs < i64Bound ∧
      ((∀ stored ∈ memory.traceOutbox, stored.id ≠ trace.id) →
        maxTraceOutboxRecords ≤ memory.traceOutbox.length →
        ∀ oldest ∈ memory.traceOutbox.head?, ∀ other ∈ memory.traceOutbox ++ [trace], oldest.Before other)
  | _ => True

/-- The timestamp fits in `i64`, and a trace not yet stored comes after all stored ones in the
    order of the table. -/
def InOrder (memory : MemoryRuntimeStore) : OutboxOperation → Prop
  | .enqueueTrace trace =>
    trace.createdAtMs < i64Bound ∧
      ((∀ stored ∈ memory.traceOutbox, stored.id ≠ trace.id) →
        ∀ stored ∈ memory.traceOutbox, stored.Before trace)
  | _ => True

instance decidableEvictsFirst (memory : MemoryRuntimeStore) :
    ∀ operation, Decidable (EvictsFirst memory operation)
  | .enqueueTrace _ => inferInstanceAs (Decidable (_ ∧ (_ → _ → _)))
  | .pendingTraces _ | .acknowledgeTraces _ => .isTrue trivial

instance decidableInOrder (memory : MemoryRuntimeStore) : ∀ operation, Decidable (InOrder memory operation)
  | .enqueueTrace _ => inferInstanceAs (Decidable (_ ∧ (_ → _)))
  | .pendingTraces _ | .acknowledgeTraces _ => .isTrue trivial

/-- The texts of an enqueued trace can be read back. -/
def ReadableTrace (codec : StoreCodec) : OutboxOperation → Prop
  | .enqueueTrace trace => codec.trace.RoundTrips trace
  | _ => True

def WholeOutbox : OutboxOperation → Prop
  | .pendingTraces limit => maxTraceOutboxRecords ≤ limit
  | _ => True

variable {memory : MemoryRuntimeStore} {sqlite : SqliteRuntimeStore} {trace : RuntimeTraceRecord}

theorem storedIds_iff (same : SameTraces codec memory sqlite) (traceId : String) :
    sqlite.traceOutbox.any (·.traceId = traceId) = memory.traceOutbox.any (·.id = traceId) := by
  rw [same.rows, List.any_map, List.any_reverse]
  rfl

theorem distinct_append {traces : List RuntimeTraceRecord}
    (distinct : (traces.map (·.id)).Nodup) (fresh : ∀ other ∈ traces, other.id ≠ trace.id) :
    ((traces ++ [trace]).map (·.id)).Nodup := by
  rw [List.map_append]
  refine List.nodup_append.mpr ⟨distinct, List.nodup_singleton _, ?_⟩
  intro id mem other isTrace sameId
  obtain ⟨stored, isStored, rfl⟩ := List.mem_map.mp mem
  exact fresh stored isStored (sameId.trans (List.mem_singleton.mp isTrace))

section

variable (same : SameTraces codec memory sqlite)
include same

theorem retain_same (fresh : ∀ other ∈ memory.traceOutbox, other.id ≠ trace.id)
    (evicts : maxTraceOutboxRecords ≤ memory.traceOutbox.length →
      ∀ oldest ∈ memory.traceOutbox.head?, ∀ other ∈ memory.traceOutbox ++ [trace], oldest.Before other) :
    SqliteRuntimeStore.retain (traceRow codec trace :: sqlite.traceOutbox) =
      ((memory.traceOutbox ++ [trace]).drop
        ((memory.traceOutbox ++ [trace]).length - maxTraceOutboxRecords)).reverse.map (traceRow codec) := by
  have rows : traceRow codec trace :: sqlite.traceOutbox =
      (memory.traceOutbox ++ [trace]).reverse.map (traceRow codec) := by
    rw [same.rows, List.reverse_append]
    rfl
  have bounded := same.bounded
  rw [rows]
  by_cases full : maxTraceOutboxRecords ≤ memory.traceOutbox.length
  · cases traces : memory.traceOutbox with
    | nil =>
      have positive := maxTraceOutboxRecords_pos
      rw [traces, List.length_nil] at full
      omega
    | cons oldest rest =>
      have length : rest.length + 1 = maxTraceOutboxRecords := by
        rw [traces, List.length_cons] at full bounded
        omega
      have first := evicts full oldest (by rw [traces]; rfl)
      have unrepeated := distinct_append same.distinct fresh
      rw [traces] at first unrepeated
      have dropped : (oldest :: rest ++ [trace]).length - maxTraceOutboxRecords = 1 := by
        rw [List.length_append, List.length_cons, List.length_singleton]
        omega
      have others : ∀ other ∈ rest ++ [trace], other.id ≠ oldest.id := by
        intro other mem sameId
        rw [List.cons_append, List.map_cons, List.nodup_cons] at unrepeated
        exact unrepeated.1 (sameId ▸ List.mem_map_of_mem mem)
      have kept : ((rest ++ [trace]).reverse.map (traceRow codec)).filter (·.traceId ≠ oldest.id) =
          (rest ++ [trace]).reverse.map (traceRow codec) := by
        refine List.filter_eq_self.mpr fun row mem => ?_
        obtain ⟨other, isOther, rfl⟩ := List.mem_map.mp mem
        exact decide_eq_true (others other (List.mem_reverse.mp isOther))
      have oneTooMany : ((oldest :: rest ++ [trace]).reverse.map (traceRow codec)).length =
          maxTraceOutboxRecords + 1 := by
        rw [List.length_map, List.length_reverse, List.length_append, List.length_cons, length,
          List.length_singleton]
      have isFirst : ∀ row ∈ (oldest :: rest ++ [trace]).reverse.map (traceRow codec),
          (traceRow codec oldest).Before row := by
        intro row mem
        obtain ⟨other, isOther, rfl⟩ := List.mem_map.mp mem
        exact first other (List.mem_reverse.mp isOther)
      have mem : traceRow codec oldest ∈ (oldest :: rest ++ [trace]).reverse.map (traceRow codec) :=
        List.mem_map_of_mem (by simp)
      rw [SqliteRuntimeStore.retain_of_length_eq oneTooMany mem isFirst, dropped, List.cons_append,
        List.reverse_cons, List.map_append, List.filter_append, List.drop_one, List.tail_cons]
      show List.filter (fun row : TraceRow => row.traceId ≠ oldest.id) _ ++ _ = _
      rw [kept]
      simp [traceRow]
  · rw [SqliteRuntimeStore.retain_of_length_le]
    · rw [List.length_append, List.length_singleton, Nat.sub_eq_zero_of_le (by omega), List.drop_zero]
    · rw [List.length_map, List.length_reverse, List.length_append, List.length_singleton]
      omega

theorem enqueueTrace_same
    (admitted : EvictsFirst memory (.enqueueTrace trace)) (readable : codec.trace.RoundTrips trace) :
    ∃ left right, memory.enqueueTrace trace = .ok left ∧ SqliteRuntimeStore.enqueueTrace codec sqlite trace = .ok right ∧
      SameTraces codec left right := by
  obtain ⟨fits, evicts⟩ := admitted
  obtain ⟨payload, encoded, decoded⟩ := readable
  have isRow : traceRow codec trace = ⟨trace.id, trace.projectId, payload, trace.createdAtMs⟩ := by
    simp [traceRow, encoded, Except.toOption]
  have rowsBounded : sqlite.traceOutbox.length ≤ maxTraceOutboxRecords := by
    rw [same.rows, List.length_map, List.length_reverse]
    exact same.bounded
  simp only [SqliteRuntimeStore.enqueueTrace, MemoryRuntimeStore.enqueueTrace, encoded, storeResult, toI64, if_pos fits,
    storedIds_iff same]
  cases stored : memory.traceOutbox.any (·.id = trace.id) with
  | true =>
    refine ⟨memory, sqlite, rfl, ?_, same⟩
    show Except.ok _ = Except.ok _
    simp only [if_true, SqliteRuntimeStore.retain_of_length_le rowsBounded]
  | false =>
    have fresh : ∀ other ∈ memory.traceOutbox, other.id ≠ trace.id := by simpa using stored
    have retained := retain_same same fresh (evicts fresh)
    rw [isRow] at retained
    simp only [Bool.false_eq_true, if_false]
    refine ⟨{ memory with
        traceOutbox := (memory.traceOutbox ++ [trace]).drop
          ((memory.traceOutbox ++ [trace]).length - maxTraceOutboxRecords) },
      { sqlite with
        traceOutbox := SqliteRuntimeStore.retain
          (⟨trace.id, trace.projectId, payload, trace.createdAtMs⟩ :: sqlite.traceOutbox) },
      ?_, ?_, ?_, ?_, ?_, ?_⟩
    · with_reducible rfl
    · simp only [bind, Except.bind, pure, Except.pure]
    · dsimp only
      exact retained
    · exact (distinct_append same.distinct fresh).sublist ((List.drop_sublist _ _).map _)
    · show (List.drop _ _).length ≤ _
      rw [List.length_drop]
      omega
    · intro other mem
      rcases List.mem_append.mp (List.mem_of_mem_drop mem) with earlier | isTrace
      · exact same.readable other earlier
      · rw [List.mem_singleton.mp isTrace]
        exact ⟨payload, encoded, decoded⟩

theorem acknowledgeTraces_same (traceIds : List String) :
    SameTraces codec { memory with traceOutbox := memory.traceOutbox.filter (·.id ∉ traceIds) }
      { sqlite with traceOutbox :=
          traceIds.foldl (fun rows traceId => rows.filter (·.traceId ≠ traceId)) sqlite.traceOutbox } where
  rows := by
    rw [SqliteRuntimeStore.acknowledge_rows, same.rows, List.filter_map, ← List.filter_reverse]
    rfl
  distinct := same.distinct.sublist (List.filter_sublist.map _)
  bounded := Nat.le_trans (List.length_filter_le _ _) same.bounded
  readable trace mem := same.readable trace (List.mem_filter.mp mem).1

theorem pendingTraces_same (limit : ℕ) : SqliteRuntimeStore.pendingTraces codec sqlite limit =
      .ok ((memory.traceOutbox.reverse.insertionSort RuntimeTraceRecord.Before).take
        (min limit maxTraceOutboxRecords)) := by
  apply mapM_ok
  rw [same.rows, ← List.map_insertionSort RuntimeTraceRecord.Before TraceRow.Before (traceRow codec) _
    (fun _ _ _ _ => Iff.rfl), ← List.map_take, List.forall₂_map_left_iff, List.forall₂_same]
  intro trace mem
  have stored : trace ∈ memory.traceOutbox := by
    simpa using List.mem_of_mem_take mem
  obtain ⟨payload, encoded, decoded⟩ := same.readable trace stored
  simp [traceRow, encoded, decoded, Except.toOption, storeResult]

theorem sorted_reverse (sorted : memory.traceOutbox.Pairwise RuntimeTraceRecord.Before) :
    memory.traceOutbox.reverse.insertionSort RuntimeTraceRecord.Before = memory.traceOutbox := by
  have permuted : (memory.traceOutbox.reverse.insertionSort RuntimeTraceRecord.Before).Perm memory.traceOutbox :=
    (List.perm_insertionSort _ _).trans (List.reverse_perm _)
  refine permuted.eq_of_pairwise ?_ (List.pairwise_insertionSort _ _) sorted
  intro left right isLeft isRight before after
  exact List.inj_on_of_nodup_map same.distinct (permuted.mem_iff.mp isLeft) isRight
    (ColumnsBefore.antisymm before after)

end

/-! ## Main results -/

/-- What a whole outbox returns in memory, and the same traces in the order of the table. -/
def OrderedReply : Except RuntimeError OutboxReply → Except RuntimeError OutboxReply → Prop
  | .ok (.traces memory), .ok (.traces sqlite) => sqlite.Perm memory ∧ sqlite.Pairwise RuntimeTraceRecord.Before
  | memory, sqlite => memory = sqlite

variable {operation : OutboxOperation}

theorem InOrder.evictsFirst
    (sorted : memory.traceOutbox.Pairwise RuntimeTraceRecord.Before) (inOrder : InOrder memory operation) :
    EvictsFirst memory operation := by
  cases operation with
  | enqueueTrace trace =>
    refine ⟨inOrder.1, fun fresh _ oldest isOldest other mem => ?_⟩
    obtain ⟨rest, traces⟩ := List.head?_eq_some_iff.mp isOldest
    have stored : oldest ∈ memory.traceOutbox := by rw [traces]; exact List.mem_cons_self
    rcases List.mem_append.mp mem with earlier | isTrace
    · rw [traces] at earlier sorted
      rcases List.mem_cons.mp earlier with rfl | later
      · exact (or_self_iff.mp (ColumnsBefore.total _ _))
      · exact (List.pairwise_cons.mp sorted).1 other later
    · rw [List.mem_singleton.mp isTrace]
      exact inOrder.2 fresh oldest stored
  | pendingTraces limit => trivial
  | acknowledgeTraces traceIds => trivial

theorem serveOutbox_same (same : SameTraces codec memory sqlite) (admitted : EvictsFirst memory operation)
    (readable : ReadableTrace codec operation) :
    let left := serveOutbox (MemoryRuntimeStore.runtimeStore codec.manifest) memory operation
    let right := serveOutbox (SqliteRuntimeStore.runtimeStore codec) sqlite operation
    SameTraces codec left.2 right.2 ∧
      match operation with
      | .pendingTraces limit => left.1 = .ok (.traces (memory.traceOutbox.take limit)) ∧
          right.1 = .ok (.traces ((memory.traceOutbox.reverse.insertionSort RuntimeTraceRecord.Before).take
            (min limit maxTraceOutboxRecords)))
      | _ => left.1 = .ok .done ∧ right.1 = .ok .done := by
  cases operation with
  | enqueueTrace trace =>
    obtain ⟨left, right, leftStores, rightStores, remain⟩ := enqueueTrace_same same admitted readable
    simp only [serveOutbox, MemoryRuntimeStore.runtimeStore, SqliteRuntimeStore.runtimeStore, leftStores, rightStores]
    exact ⟨remain, trivial, trivial⟩
  | pendingTraces limit =>
    refine ⟨same, rfl, ?_⟩
    show (SqliteRuntimeStore.pendingTraces codec sqlite limit).map OutboxReply.traces = _
    rw [pendingTraces_same same]
    rfl
  | acknowledgeTraces traceIds => exact ⟨acknowledgeTraces_same same traceIds, rfl, rfl⟩

structure SortedTraces (codec : StoreCodec) (memory : MemoryRuntimeStore) (sqlite : SqliteRuntimeStore) : Prop
    extends SameTraces codec memory sqlite where
  sorted : memory.traceOutbox.Pairwise RuntimeTraceRecord.Before

theorem InOrder.keeps_sorted
    (sorted : memory.traceOutbox.Pairwise RuntimeTraceRecord.Before) (inOrder : InOrder memory operation)
    (codec : ManifestCodec) :
    (serveOutbox (MemoryRuntimeStore.runtimeStore codec) memory operation).2.traceOutbox.Pairwise
      RuntimeTraceRecord.Before := by
  cases operation with
  | enqueueTrace trace =>
    simp only [serveOutbox, MemoryRuntimeStore.runtimeStore, MemoryRuntimeStore.enqueueTrace]
    cases stored : memory.traceOutbox.any (·.id = trace.id) with
    | true => exact sorted
    | false =>
      have fresh : ∀ other ∈ memory.traceOutbox, other.id ≠ trace.id := by simpa using stored
      have appended : (memory.traceOutbox ++ [trace]).Pairwise RuntimeTraceRecord.Before := by
        refine List.pairwise_append.mpr ⟨sorted, List.pairwise_singleton _ _, fun other mem last isLast => ?_⟩
        rw [List.mem_singleton.mp isLast]
        exact inOrder.2 fresh other mem
      exact appended.sublist (List.drop_sublist _ _)
  | pendingTraces limit => exact sorted
  | acknowledgeTraces traceIds => exact sorted.sublist List.filter_sublist

theorem SortedTraces.serve (sorted : SortedTraces codec memory sqlite) (inOrder : InOrder memory operation)
    (readable : ReadableTrace codec operation) :
    let left := serveOutbox (MemoryRuntimeStore.runtimeStore codec.manifest) memory operation
    let right := serveOutbox (SqliteRuntimeStore.runtimeStore codec) sqlite operation
    left.1 = right.1 ∧ SortedTraces codec left.2 right.2 := by
  obtain ⟨remain, reply⟩ := serveOutbox_same sorted.toSameTraces (inOrder.evictsFirst sorted.sorted) readable
  refine ⟨?_, remain, inOrder.keeps_sorted sorted.sorted codec.manifest⟩
  cases operation with
  | enqueueTrace trace => rw [reply.1, reply.2]
  | acknowledgeTraces traceIds => rw [reply.1, reply.2]
  | pendingTraces limit =>
    rw [reply.1, reply.2, sorted_reverse sorted.toSameTraces sorted.sorted]
    rcases le_total limit maxTraceOutboxRecords with within | beyond
    · rw [min_eq_left within]
    · have bounded := sorted.bounded
      rw [min_eq_right beyond, List.take_of_length_le bounded, List.take_of_length_le (by omega)]

/-- Served with the same operations, the stores return the same traces: the same lists if the
    traces come in the order of the table, and otherwise the same traces in this order as long
    as every eviction hits a trace that is first in both orders. -/
theorem outboxes_agree (codec : StoreCodec) (operations : List OutboxOperation)
    (readable : ∀ operation ∈ operations, ReadableTrace codec operation) :
    (Admitted (serveOutbox (MemoryRuntimeStore.runtimeStore codec.manifest)) InOrder .empty operations →
      replies (serveOutbox (MemoryRuntimeStore.runtimeStore codec.manifest)) .empty operations =
        replies (serveOutbox (SqliteRuntimeStore.runtimeStore codec)) .empty operations) ∧
    (Admitted (serveOutbox (MemoryRuntimeStore.runtimeStore codec.manifest)) EvictsFirst .empty operations →
      (∀ operation ∈ operations, WholeOutbox operation) →
      List.Forall₂ OrderedReply
        (replies (serveOutbox (MemoryRuntimeStore.runtimeStore codec.manifest)) .empty operations)
        (replies (serveOutbox (SqliteRuntimeStore.runtimeStore codec)) .empty operations)) := by
  have initially : SameTraces codec .empty .empty := ⟨rfl, List.nodup_nil, Nat.zero_le _, nofun⟩
  constructor
  · intro admitted
    have sorted : SortedTraces codec .empty .empty := ⟨initially, .nil⟩
    rw [← List.forall₂_eq_eq_eq]
    exact replies_agree (fun _ _ _ sorted admitted => sorted.serve admitted.1 admitted.2) sorted
      (admitted.and readable)
  · intro admitted whole
    refine replies_agree ?_ initially ((admitted.and readable).and whole)
    intro memory sqlite operation same ⟨⟨evicts, readable⟩, whole⟩
    obtain ⟨remain, reply⟩ := serveOutbox_same same evicts readable
    refine ⟨?_, remain⟩
    cases operation with
    | enqueueTrace trace =>
      rw [reply.1, reply.2]
      rfl
    | acknowledgeTraces traceIds =>
      rfl
    | pendingTraces limit =>
      have length : (memory.traceOutbox.reverse.insertionSort RuntimeTraceRecord.Before).length =
          memory.traceOutbox.length := by
        rw [List.length_insertionSort, List.length_reverse]
      have covers : maxTraceOutboxRecords ≤ limit := whole
      have bounded := same.bounded
      rw [reply.1, reply.2, List.take_of_length_le (by omega), List.take_of_length_le (by omega)]
      exact ⟨(List.perm_insertionSort _ _).trans (List.reverse_perm _), List.pairwise_insertionSort _ _⟩

/-! ## Two traces -/

def townTrace (invocation createdAtMs : ℕ) : RuntimeTraceRecord where
  id := "trace-" ++ toString createdAtMs ++ "-invocation-" ++ toString invocation
  projectId := "town"
  invocationId := "invocation-" ++ toString invocation
  endpoint := "town-guide"
  agent := some "guide"
  provider := some "models"
  capability := some "chat"
  status := "completed"
  durationMs := 12
  createdAtMs := createdAtMs

/-- The JSON of such a trace, whose texts need no escapes. -/
def townTraceJson (trace : RuntimeTraceRecord) : String :=
  "\x7b\"id\":\"" ++ trace.id ++ "\",\"projectId\":\"town\",\"invocationId\":\"" ++ trace.invocationId ++
  "\",\"endpoint\":\"town-guide\",\"agent\":\"guide\",\"provider\":\"models\",\"capability\":\"chat\"," ++
  "\"status\":\"completed\",\"durationMs\":12,\"createdAtMs\":" ++ toString trace.createdAtMs ++ "\x7d"

/-- The first invocation ends before the second, and the clock is set back between the two. -/
def townTraces : List RuntimeTraceRecord := [townTrace 1 1700000000002, townTrace 2 1700000000001]

def townStoreCodec : StoreCodec where
  manifest := guideCodec "chat"
  state := ⟨fun _ => .error "unknown value", fun _ => .error "unknown text"⟩
  trace :=
    { toVec := fun trace =>
        if trace ∈ townTraces then .ok (townTraceJson trace).toUTF8.data.toList else .error "unknown record"
      fromSlice := fun bytes =>
        match townTraces.find? (fun trace => (townTraceJson trace).toUTF8.data.toList = bytes) with
        | some trace => .ok trace
        | none => .error "unknown text" }

theorem townTraces_readable : ∀ trace ∈ townTraces, townStoreCodec.trace.RoundTrips trace := by
  intro trace mem
  refine ⟨_, if_pos mem, ?_⟩
  simp only [townTraces, List.mem_cons, List.not_mem_nil, or_false] at mem
  rcases mem with rfl | rfl <;> decide +kernel

/-- Enqueued in the order of their timestamps, and the other way round. -/
theorem outboxes_agree_run :
    let first := townTrace 1 1700000000002
    let second := townTrace 2 1700000000001
    let ordered : List OutboxOperation := [.enqueueTrace second, .enqueueTrace first, .enqueueTrace second,
      .pendingTraces 1, .acknowledgeTraces [second.id], .pendingTraces 1000]
    let unordered : List OutboxOperation := [.enqueueTrace first, .enqueueTrace second, .pendingTraces 1000]
    replies (serveOutbox (MemoryRuntimeStore.runtimeStore (guideCodec "chat"))) .empty ordered =
        replies (serveOutbox (SqliteRuntimeStore.runtimeStore townStoreCodec)) .empty ordered ∧
      List.Forall₂ OrderedReply
        (replies (serveOutbox (MemoryRuntimeStore.runtimeStore (guideCodec "chat"))) .empty unordered)
        (replies (serveOutbox (SqliteRuntimeStore.runtimeStore townStoreCodec)) .empty unordered) := by
  intro first second ordered unordered
  have readableFirst : ReadableTrace townStoreCodec (.enqueueTrace first) :=
    townTraces_readable first List.mem_cons_self
  have readableSecond : ReadableTrace townStoreCodec (.enqueueTrace second) :=
    townTraces_readable second (List.mem_cons_of_mem _ List.mem_cons_self)
  constructor
  · apply (outboxes_agree townStoreCodec ordered ?_).1
    · decide +kernel
    · simp only [ordered, List.forall_mem_cons, List.not_mem_nil, false_imp_iff, implies_true, and_true]
      exact ⟨readableSecond, readableFirst, readableSecond, trivial, trivial, trivial⟩
  · apply (outboxes_agree townStoreCodec unordered ?_).2
    · decide +kernel
    · simp only [unordered, List.forall_mem_cons, List.not_mem_nil, false_imp_iff, implies_true, and_true]
      refine ⟨trivial, trivial, ?_⟩
      show maxTraceOutboxRecords ≤ 1000
      decide +kernel
    · simp only [unordered, List.forall_mem_cons, List.not_mem_nil, false_imp_iff, implies_true, and_true]
      exact ⟨readableFirst, readableSecond, trivial⟩

/-- The first trace has the later timestamp: the table returns the second one first. -/
theorem outbox_order_differs :
    let first := townTrace 1 1700000000002
    let second := townTrace 2 1700000000001
    let operations : List OutboxOperation := [.enqueueTrace first, .enqueueTrace second, .pendingTraces 100]
    replies (serveOutbox (MemoryRuntimeStore.runtimeStore (guideCodec "chat"))) .empty operations =
        [.ok .done, .ok .done, .ok (.traces [first, second])] ∧
      replies (serveOutbox (SqliteRuntimeStore.runtimeStore townStoreCodec)) .empty operations =
        [.ok .done, .ok .done, .ok (.traces [second, first])] := by
  decide +kernel

end Vifu.Runtime
