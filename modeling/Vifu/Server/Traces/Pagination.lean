import Vifu.Foundation.Paging
import Vifu.Server.Traces.Tables

/-!
# Pages of traces

`list_traces` shows the traces of a project behind a cursor, which is the time and the id of the last row of the
page before.  The cursor is bound as RFC 3339 and compared with the text of the column: of a time that was
stored by `strftime` it does not admit all that comes later.
-/

namespace Vifu.Server

open Foundation
open Vifu.Gateway

structure TraceCursor where
  createdAt : DateTime
  traceId : Uuid
  deriving DecidableEq

structure TraceListOptions where
  endpointId : Option Uuid
  projectId : Option Uuid
  requestId : Option Uuid
  traceId : Option Uuid
  allowedProfileIds : Option (List Uuid)
  createdFrom : Option DateTime
  createdBefore : Option DateTime
  cursor : Option TraceCursor
  limit : ℕ
  deriving DecidableEq

def Uuid.Less (first second : Uuid) : Prop := first.text.toList < second.text.toList

instance : DecidableRel Uuid.Less := fun _ _ => inferInstanceAs (Decidable (_ < _))

def TraceCursor.admits (cursor : TraceCursor) (trace : EndpointTrace) : Bool :=
  trace.createdAt.text < cursor.createdAt.rfc3339 ∨
    trace.createdAt.text = cursor.createdAt.rfc3339 ∧ Uuid.Less trace.id cursor.traceId

namespace TraceListOptions

variable (options : TraceListOptions)

def ofOwner (trace : EndpointTrace) : Bool :=
  match options.endpointId with
  | some endpointId => trace.endpointId == some endpointId
  | none => options.projectId.all fun projectId => trace.projectId == some projectId

/-- The `WHERE` clause. -/
def selects (trace : EndpointTrace) : Bool :=
  options.ofOwner trace &&
  options.requestId.all (trace.requestId == ·) &&
  options.traceId.all (trace.id == ·) &&
  options.allowedProfileIds.all (fun profileIds => trace.profileId.any profileIds.contains) &&
  options.createdFrom.all (fun from_ => !decide (trace.createdAt.text < from_.rfc3339)) &&
  options.createdBefore.all (fun before => decide (trace.createdAt.text < before.rfc3339)) &&
  options.cursor.all fun cursor => cursor.admits trace

/-- The allowed profiles do not count as a filter: what comes after them opens a second `WHERE`. -/
def hasTwoWhere : Bool :=
  options.allowedProfileIds.isSome && options.endpointId.isNone && options.projectId.isNone && options.requestId.isNone &&
    options.traceId.isNone && (options.createdFrom.isSome || options.createdBefore.isSome || options.cursor.isSome)

end TraceListOptions

/-- `ORDER BY created_at DESC, id DESC`. -/
def EndpointTrace.Before (first second : EndpointTrace) : Prop :=
  second.createdAt.text < first.createdAt.text ∨
    first.createdAt.text = second.createdAt.text ∧ ¬Uuid.Less first.id second.id

instance : DecidableRel EndpointTrace.Before := fun _ _ => inferInstanceAs (Decidable (_ ∨ _))

namespace TraceTables

variable (tables : TraceTables)

def listTraces (options : TraceListOptions) : Except ApiError (List EndpointTrace) :=
  if options.hasTwoWhere then .error .database
  else .ok (((tables.endpointTraces.filter options.selects).insertionSort EndpointTrace.Before).take options.limit)

def tracePage (projectId : Uuid) (limit : ℕ) (last : Option EndpointTrace) : List EndpointTrace :=
  (tables.listTraces
    { endpointId := none
      projectId := some projectId
      requestId := none
      traceId := none
      allowedProfileIds := none
      createdFrom := none
      createdBefore := none
      cursor := last.map fun trace => ⟨trace.createdAt.read, trace.id⟩
      limit }).toOption.getD []

def newestFirst (projectId : Uuid) : List EndpointTrace :=
  (tables.endpointTraces.filter fun trace => trace.projectId == some projectId).insertionSort EndpointTrace.Before

end TraceTables

theorem Uuid.eq_of_text {first second : Uuid} (same : first.text.toList = second.text.toList) : first = second := by
  cases first
  cases second
  simpa [String.toList_inj] using same

theorem EndpointTrace.Before.total (first second : EndpointTrace) : first.Before second ∨ second.Before first := by
  rcases lt_trichotomy first.createdAt.text second.createdAt.text with earlier | same | later
  · exact .inr (.inl earlier)
  · rcases lt_or_ge first.id.text.toList second.id.text.toList with less | notLess
    · exact .inr (.inr ⟨same.symm, lt_asymm less⟩)
    · exact .inl (.inr ⟨same, not_lt.mpr notLess⟩)
  · exact .inl (.inl later)

variable {first second third : EndpointTrace} {first second : EndpointTrace}

theorem EndpointTrace.Before.trans (before : first.Before second)
    (after : second.Before third) : first.Before third := by
  rcases before with later | ⟨same, notLess⟩
  · rcases after with again | ⟨alike, _⟩
    · exact .inl (lt_trans again later)
    · exact .inl (alike ▸ later)
  · rcases after with again | ⟨alike, notLessAgain⟩
    · exact .inl (same ▸ again)
    · exact .inr ⟨same.trans alike, fun less => notLess (lt_of_lt_of_le less (not_lt.mp notLessAgain))⟩

instance : Std.Total EndpointTrace.Before := ⟨EndpointTrace.Before.total⟩
instance : IsTrans EndpointTrace EndpointTrace.Before := ⟨fun _ _ _ => EndpointTrace.Before.trans⟩

theorem EndpointTrace.Before.antisymm (before : first.Before second)
    (after : second.Before first) : first.id = second.id := by
  rcases before with later | ⟨same, notLess⟩
  · rcases after with again | ⟨alike, _⟩
    · exact absurd again (lt_asymm later)
    · exact absurd (alike ▸ later) (lt_irrefl _)
  · rcases after with again | ⟨_, notLessAgain⟩
    · exact absurd (same ▸ again) (lt_irrefl _)
    · exact Uuid.eq_of_text (le_antisymm (not_lt.mp notLessAgain) (not_lt.mp notLess))

/-! ## What a cursor admits -/

def EndpointTrace.admits (last row : EndpointTrace) : Bool := TraceCursor.admits ⟨last.createdAt.read, last.id⟩ row

variable {last row : EndpointTrace}

theorem admits_iff : last.admits row = true ↔ row.createdAt.text < last.createdAt.read.rfc3339 ∨
      row.createdAt.text = last.createdAt.read.rfc3339 ∧ Uuid.Less row.id last.id := by
  simp [EndpointTrace.admits, TraceCursor.admits]

theorem Timestamp.not_text_lt (stamp : Timestamp) : ¬stamp.text < stamp.read.rfc3339 := by
  cases stamp with
  | now clock => exact lt_asymm (DateTime.rfc3339_lt_strftime clock.ofClock)
  | bound time => exact lt_irrefl _

theorem not_before_of_admits (admitted : last.admits row = true) : ¬row.Before last := by
  rw [admits_iff] at admitted
  have bound := not_lt.mp last.createdAt.not_text_lt
  intro before
  rcases before with later | ⟨same, notLess⟩
  · rcases admitted with earlier | ⟨alike, _⟩
    · exact absurd (lt_trans later (lt_of_lt_of_le earlier bound)) (lt_irrefl _)
    · exact absurd (lt_of_lt_of_le (alike ▸ later) bound) (lt_irrefl _)
  · rcases admitted with earlier | ⟨_, less⟩
    · exact absurd (lt_of_lt_of_le (same ▸ earlier) bound) (lt_irrefl _)
    · exact notLess less

theorem admits_trans (admitted : first.admits second = true)
    (again : second.admits third = true) : first.admits third = true := by
  rw [admits_iff] at admitted again ⊢
  have bound := not_lt.mp second.createdAt.not_text_lt
  have upTo : third.createdAt.text ≤ second.createdAt.text := by
    rcases again with earlier | ⟨alike, _⟩
    · exact le_of_lt (lt_of_lt_of_le earlier bound)
    · exact alike ▸ bound
  rcases admitted with earlier | ⟨same, less⟩
  · exact .inl (lt_of_le_of_lt upTo earlier)
  · rcases lt_or_eq_of_le (same ▸ upTo) with below | level
    · exact .inl below
    · -- all three rows have one text, so that the ids decide
      rcases again with earlier | ⟨_, lessAgain⟩
      · rw [← same]
        exact .inl (lt_of_lt_of_le earlier bound)
      · exact .inr ⟨level, lt_trans lessAgain less⟩

/-- The rows that come after a row and that its cursor does not admit: the row was stored by `strftime`, and the
others in its millisecond, by `strftime` too, with a finer fraction or under a greater id. -/
def Skipped (last row : EndpointTrace) : Prop :=
  last.createdAt.isNow = true ∧ last.createdAt.read.SameMillisecond row.createdAt.read ∧
    (row.createdAt.isNow = true ∨ row.createdAt.read.nanosecond % 1000000 ≠ 0 ∨ Uuid.Less last.id row.id)

instance : DecidableRel Skipped := fun _ _ => inferInstanceAs (Decidable (_ ∧ _ ∧ _))

theorem admits_iff_not_skipped (after : last.Before row) (different : row.id ≠ last.id) :
    last.admits row = true ↔ ¬Skipped last row := by
  rw [admits_iff]
  cases isLast : last.createdAt with
  | bound time =>
    -- the cursor of a bound value is its own text
    have ahead : row.createdAt.text < time.rfc3339 ∨ row.createdAt.text = time.rfc3339 ∧ Uuid.Less row.id last.id := by
      rcases after with later | ⟨same, notLess⟩
      · rw [isLast] at later
        exact .inl later
      · rw [isLast] at same
        refine .inr ⟨same.symm, lt_of_le_of_ne (not_lt.mp notLess) ?_⟩
        exact fun alike => different (Uuid.eq_of_text alike)
    have notSkipped : ¬Skipped last row := by
      intro skipped
      have isNow := skipped.1
      rw [isLast] at isNow
      contradiction
    exact iff_of_true ahead notSkipped
  | now clock =>
    have notAfter : ¬clock.time.strftime < row.createdAt.text := by
      rcases after with later | ⟨same, _⟩
      · rw [isLast] at later
        exact lt_asymm later
      · rw [isLast] at same
        exact fun later => absurd (same ▸ later) (lt_irrefl _)
    simp only [Skipped, isLast, Timestamp.isNow_now, Timestamp.read_now, true_and]
    by_cases same : clock.time.SameMillisecond row.createdAt.read
    · cases isRow : row.createdAt with
      | now other =>
        rw [isRow, Timestamp.read_now] at same
        have level : clock.time.rfc3339 < other.time.strftime := by
          rw [← DateTime.strftime_eq same]
          exact DateTime.rfc3339_lt_strftime clock.ofClock
        simp [same, lt_asymm level, ne_of_gt level]
      | bound time =>
        rw [isRow, Timestamp.read_bound] at same
        by_cases coarse : time.nanosecond % 1000000 = 0
        · have level := DateTime.rfc3339_eq clock.ofClock same coarse
          have ordered : ¬Uuid.Less last.id row.id ↔ Uuid.Less row.id last.id := by
            rcases lt_trichotomy last.id.text.toList row.id.text.toList with less | alike | greater
            · exact iff_of_false (not_not.mpr less) (lt_asymm less)
            · exact absurd (Uuid.eq_of_text alike).symm different
            · exact iff_of_true (lt_asymm greater) greater
          simp [same, level, coarse, ordered]
        · have above := DateTime.rfc3339_lt_finer clock.ofClock same coarse
          simp [same, coarse, lt_asymm above, ne_of_gt above]
    · have below : row.createdAt.text < clock.time.rfc3339 := by
        by_contra notBelow
        exact same (Timestamp.sameMillisecond_of_between notBelow notAfter)
      simp [same, below]

/-! ## Pages -/

namespace TraceTables

variable {tables : TraceTables} {projectId : Uuid} {limit : ℕ}

theorem trace_unique (mem : first ∈ tables.endpointTraces)
    (stored : second ∈ tables.endpointTraces) (same : first.id = second.id) : first = second :=
  Rows.unique mem stored (by simp [clash, Keyed.conflicts, Keyed.key, same])

theorem newestFirst_pairwise (tables : TraceTables) (projectId : Uuid) :
    (tables.newestFirst projectId).Pairwise fun first later => first.Before later ∧ later.id ≠ first.id := by
  have sorted : (tables.newestFirst projectId).Pairwise EndpointTrace.Before := List.pairwise_insertionSort _ _
  have apart : (tables.newestFirst projectId).Pairwise fun first later => later.id ≠ first.id := by
    apply (List.perm_insertionSort EndpointTrace.Before _).symm.pairwise
    · apply (tables.endpointTraces.apart.sublist List.filter_sublist).imp
      intro first later free same
      simp [clash, Keyed.conflicts, Keyed.key, same] at free
    · exact fun different same => different same.symm
  exact sorted.and apart

theorem tracePage_eq (last : Option EndpointTrace) : tables.tracePage projectId limit last =
    ((tables.endpointTraces.filter fun trace => trace.projectId == some projectId &&
      last.all fun row => row.admits trace).insertionSort EndpointTrace.Before).take limit := by
  simp only [tracePage, listTraces, TraceListOptions.hasTwoWhere, Option.isSome_none, Bool.false_and, Bool.false_eq_true,
    if_false, Except.toOption, Option.getD_some]
  congr 3
  funext trace
  cases last <;> simp [TraceListOptions.selects, TraceListOptions.ofOwner, EndpointTrace.admits]

theorem pages (tables : TraceTables) (projectId : Uuid) (limit : ℕ) :
    Pages (tables.tracePage projectId limit) (tables.newestFirst projectId) limit EndpointTrace.admits where
  first := by
    simp [tracePage_eq, newestFirst]
  next last := by
    have sorts : (((tables.endpointTraces.filter fun trace => trace.projectId == some projectId).filter
        last.admits).insertionSort EndpointTrace.Before) = (tables.newestFirst projectId).filter last.admits := by
      apply insertionSort_filter
      intro row isRow other isOther before after
      exact trace_unique (Rows.mem_filter.mp isRow).1 (Rows.mem_filter.mp isOther).1 (before.antisymm after)
    rw [tracePage_eq, ← sorts, Rows.filter, Rows.filter]
    simp [Bool.and_comm]
  ahead := by
    apply (newestFirst_pairwise tables projectId).imp
    intro row later ordered
    rw [Bool.eq_false_iff]
    exact fun admitted => not_before_of_admits admitted ordered.1
  notItself row _ := by
    rw [Bool.eq_false_iff]
    exact fun admitted => not_before_of_admits admitted (.inr ⟨rfl, lt_irrefl _⟩)
  transitive _ _ _ admitted again := admits_trans admitted again

end TraceTables

/-- Following the cursors until a page is empty visits every trace of the project exactly once, the newest first, if
and only if no page ends with a trace whose cursor skips one that is left. -/
theorem trace_pages_complete (tables : TraceTables) (projectId : Uuid) (limit fuel : ℕ) (positive : 0 < limit)
    (enough : (tables.newestFirst projectId).length < fuel) :
    follow (tables.tracePage projectId limit) fuel none = tables.newestFirst projectId ↔
      ∀ turn last, (tables.newestFirst projectId)[(turn + 1) * limit - 1]? = some last →
        ∀ row ∈ (tables.newestFirst projectId).drop ((turn + 1) * limit), ¬Skipped last row := by
  rw [(TraceTables.pages tables projectId limit).follow_all positive enough]
  have later : ∀ turn last, (tables.newestFirst projectId)[(turn + 1) * limit - 1]? = some last →
      ∀ row ∈ (tables.newestFirst projectId).drop ((turn + 1) * limit), last.Before row ∧ row.id ≠ last.id := by
    intro turn last isLast row member
    obtain ⟨place, isRow⟩ := List.mem_iff_getElem?.mp member
    rw [List.getElem?_drop] at isRow
    obtain ⟨lastFits, isLast⟩ := List.getElem?_eq_some_iff.mp isLast
    obtain ⟨rowFits, isRow⟩ := List.getElem?_eq_some_iff.mp isRow
    have positiveEnd : 0 < (turn + 1) * limit := Nat.mul_pos (Nat.succ_pos turn) positive
    have ordered := List.pairwise_iff_getElem.mp (TraceTables.newestFirst_pairwise tables projectId)
      ((turn + 1) * limit - 1) ((turn + 1) * limit + place) lastFits rowFits (by omega)
    rwa [isLast, isRow] at ordered
  constructor
  · intro keeps turn last isLast row member
    obtain ⟨after, different⟩ := later turn last isLast row member
    exact (admits_iff_not_skipped after different).mp (keeps turn last isLast row member)
  · intro keeps turn last isLast row member
    obtain ⟨after, different⟩ := later turn last isLast row member
    exact (admits_iff_not_skipped after different).mpr (keeps turn last isLast row member)

def townTraceProject : Uuid := ⟨"0190f2c4-7b1e-7c3a-9d52-1f6a0e8b4e0a", by decide⟩
def townTraceFirst : Uuid := ⟨"0190f2c4-7b1e-7c3a-9d52-1f6a0e8b4e0b", by decide⟩
def townTraceSecond : Uuid := ⟨"0190f2c4-7b1e-7c3a-9d52-1f6a0e8b4e0c", by decide⟩

def townTrace (requestId : Uuid) : NewTrace where
  requestId := requestId
  endpointId := none
  projectId := some townTraceProject
  gatewaySessionId := none
  profileId := none
  profileVersionId := none
  operation := "chat.completions"
  providerKey := none
  capabilityKind := none
  selectionKey := none
  request := .emptyObject

def townTraces (first second : Clock) : TraceTables :=
  ((TraceTables.empty.createTrace first townTraceFirst (townTrace townTraceFirst)).bind fun tables =>
    tables.createTrace second townTraceSecond (townTrace townTraceSecond)).toOption.getD .empty

/-- A second later, the cursors keep all traces. -/
theorem trace_pages_complete_later :
    let later : Clock := ⟨⟨2026, 3, 14, 15, 9, 27, 535000000, by decide⟩, by decide⟩
    ∀ turn last, ((townTraces townClock later).newestFirst townTraceProject)[(turn + 1) * 1 - 1]? = some last →
      ∀ row ∈ ((townTraces townClock later).newestFirst townTraceProject).drop ((turn + 1) * 1), ¬Skipped last row := by
  intro later
  exact (trace_pages_complete (townTraces townClock later) townTraceProject 1 3 (by decide) (by decide +kernel)).mp
    (by decide +kernel)

/-- Of two traces that are created in one millisecond, pages of one show the first alone. -/
theorem trace_lost_between_pages :
    ((townTraces townClock townClock).newestFirst townTraceProject).map EndpointTrace.id =
        [townTraceSecond, townTraceFirst] ∧
      (follow ((townTraces townClock townClock).tracePage townTraceProject 1) 3 none).map EndpointTrace.id =
        [townTraceSecond] := by
  decide +kernel

end Vifu.Server
