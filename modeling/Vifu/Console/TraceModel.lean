import Mathlib.Data.Prod.Lex
import Mathlib.Tactic.Linarith
import Vifu.Foundation.Forest

/-!
# The observation tree of the console

The console lists the spans of a trace as a tree.  The pointers to the parents come from outside, so they can dangle
or run in circles.
-/

namespace Vifu.Console

open Foundation

/-! ## Spans -/

inductive JsNumber where
  | finite (value : ℚ)
  | notFinite
  deriving DecidableEq

/-- A value that is looked at only when it is a number. -/
inductive Unknown where
  | number (value : JsNumber)
  | other
  deriving DecidableEq

structure TraceSpan where
  id : String
  parentSpanId : Option String
  durationMs : Option JsNumber
  attributes : List (String × Unknown)
  createdAt : String
  deriving DecidableEq

def TraceSpan.attribute (span : TraceSpan) (key : String) : Unknown := (span.attributes.lookup key).getD .other

def TraceSpan.parentId (span : TraceSpan) : Option String := span.parentSpanId.filter (· ≠ "")

def finiteNonNegativeNumber : Unknown → Option ℚ
  | .number (.finite value) => if 0 ≤ value then some value else none
  | .number .notFinite | .other => none

structure TimelineOffsets where
  startMs : ℚ
  endMs : ℚ

/-- The rounding of a sum of numbers that are not negative does not bring it below the first. -/
def observationTimelineOffsets (span : TraceSpan) : Option TimelineOffsets :=
  match finiteNonNegativeNumber (span.attribute "startOffsetMs") with
  | none => none
  | some startMs =>
    let endMs :=
      match finiteNonNegativeNumber (span.attribute "endOffsetMs"), span.durationMs with
      | some explicitEndMs, _ => explicitEndMs
      | none, some (.finite durationMs) => if 0 ≤ durationMs then startMs + durationMs else startMs
      | none, _ => startMs
    if endMs < startMs then none else some ⟨startMs, endMs⟩

section

/-! `Date.parse`, without a value for a text that is no date, and the order of texts in the locale. -/

variable (parseDate : String → Option ℤ) (localeCompare : String → String → ℤ)

/-- The end of `compareSpans`, without the offsets. -/
def compareTimes (a b : TraceSpan) : ℚ :=
  match parseDate a.createdAt, parseDate b.createdAt with
  | some aTime, some bTime => if aTime ≠ bTime then aTime - bTime else localeCompare a.id b.id
  | _, _ => localeCompare a.id b.id

def compareSpans (a b : TraceSpan) : ℚ :=
  match observationTimelineOffsets a, observationTimelineOffsets b with
  | some aOffsets, some bOffsets =>
    if aOffsets.startMs ≠ bOffsets.startMs then aOffsets.startMs - bOffsets.startMs
    else compareTimes parseDate localeCompare a b
  | some _, none => -1
  | none, some _ => 1
  | none, none => compareTimes parseDate localeCompare a b

/-! ## The forest -/

/-- The map of the nodes.  A later span with the same id takes the place of an earlier one. -/
def nodesOf (ordered : List TraceSpan) (id : String) : Option TraceSpan :=
  ordered.reverse.find? fun span => span.id = id

theorem unseen_decreases {ordered : List TraceSpan} {seen : List String} {cursor : String} {span : TraceSpan}
    (unseen : cursor ∉ seen) (found : nodesOf ordered cursor = some span) :
    ordered.countP (fun span => span.id ∉ cursor :: seen) < ordered.countP (fun span => span.id ∉ seen) := by
  have mem := List.mem_reverse.mp (List.mem_of_find?_eq_some found)
  have isCursor : span.id = cursor := by simpa using List.find?_some found
  have fewer : ordered.filter (fun span => span.id ∉ cursor :: seen) =
      (ordered.filter fun span => span.id ∉ seen).filter fun span => span.id ≠ cursor := by
    rw [List.filter_filter]
    exact List.filter_congr fun span _ => by simp [not_or]
  rw [List.countP_eq_length_filter, List.countP_eq_length_filter, fewer, List.length_filter_lt_length_iff_exists]
  exact ⟨span, by simp [mem, isCursor, unseen], by simp [isCursor]⟩

/-- The loop of `wouldCreateCycle`, which goes up from a parent. -/
def wouldCreateCycleFrom (ordered : List TraceSpan) (seen : List String) (cursor : Option String) : Bool :=
  match cursor with
  | none => false
  | some id =>
    if _ : id ∈ seen then true
    else
      match _ : nodesOf ordered id with
      | none => false
      | some span => wouldCreateCycleFrom ordered (id :: seen) span.parentId
termination_by ordered.countP (fun span => span.id ∉ seen)
decreasing_by exact unseen_decreases ‹_› ‹_›

def wouldCreateCycle (ordered : List TraceSpan) (span : TraceSpan) : Bool :=
  wouldCreateCycleFrom ordered [span.id] span.parentId

def parentNode (ordered : List TraceSpan) (span : TraceSpan) : Option TraceSpan :=
  (span.parentId.bind (nodesOf ordered)).filter fun parent =>
    parent.id ≠ span.id && !wouldCreateCycle ordered span

structure TraceObservationForest where
  roots : List TraceSpan
  children : String → List TraceSpan

def TraceObservationForest.place (ordered : List TraceSpan) (forest : TraceObservationForest) (span : TraceSpan) :
    TraceObservationForest :=
  match nodesOf ordered span.id with
  | none => forest
  | some node =>
    match parentNode ordered span with
    | none => { forest with roots := forest.roots ++ [node] }
    | some parent =>
      { forest with
        children := Function.update forest.children parent.id (forest.children parent.id ++ [node]) }

def orderedSpans (spans : List TraceSpan) : List TraceSpan :=
  spans.mergeSort fun a b => decide (compareSpans parseDate localeCompare a b ≤ 0)

def buildTraceObservationForest (spans : List TraceSpan) : TraceObservationForest :=
  let ordered := orderedSpans parseDate localeCompare spans
  ordered.foldl (.place ordered) ⟨[], fun _ => []⟩

end

structure FlatTraceObservation where
  depth : ℕ
  span : TraceSpan

/-- What the calls of `visit` share. -/
structure Walk where
  visited : List String
  flattened : List FlatTraceObservation

/-- `calls` is the number of calls that fit on the stack. -/
def visit (forest : TraceObservationForest) : ℕ → ℕ → Walk → TraceSpan → Option Walk
  | 0, _, _, _ => none
  | calls + 1, depth, walk, span =>
    if span.id ∈ walk.visited then some walk
    else (forest.children span.id).foldlM (visit forest calls (depth + 1))
      ⟨span.id :: walk.visited, walk.flattened ++ [⟨depth, span⟩]⟩

def flattenTraceObservationForest (calls : ℕ) (forest : TraceObservationForest) : Option (List FlatTraceObservation) :=
  (forest.roots.foldlM (visit forest calls 0) ⟨[], []⟩).map Walk.flattened

/-! ## The order of the spans -/

/-- What is known of the order of texts in a locale.  Texts that differ may be equal in it. -/
structure Collates (localeCompare : String → String → ℤ) : Prop where
  swap : ∀ a b, localeCompare a b < 0 ↔ 0 < localeCompare b a
  trans : ∀ a b c, localeCompare a b ≤ 0 → localeCompare b c ≤ 0 → localeCompare a c ≤ 0

section

variable {parseDate : String → Option ℤ} {localeCompare : String → String → ℤ} {a b c : TraceSpan}

/-- What is compared before the ids: whether there are offsets, the start, and the time of creation. -/
def sortKey (parseDate : String → Option ℤ) (span : TraceSpan) : ℕ ×ₗ ℚ ×ₗ ℤ :=
  match observationTimelineOffsets span with
  | some offsets => toLex (0, toLex (offsets.startMs, (parseDate span.createdAt).getD 0))
  | none => toLex (1, toLex (0, (parseDate span.createdAt).getD 0))

section

variable (aDate : (parseDate a.createdAt).isSome) (bDate : (parseDate b.createdAt).isSome)
include aDate bDate

theorem compareSpans_sign :
    (compareSpans parseDate localeCompare a b < 0 ↔ sortKey parseDate a < sortKey parseDate b ∨
      sortKey parseDate a = sortKey parseDate b ∧ localeCompare a.id b.id < 0) ∧
    (0 < compareSpans parseDate localeCompare a b ↔ sortKey parseDate b < sortKey parseDate a ∨
      sortKey parseDate a = sortKey parseDate b ∧ 0 < localeCompare a.id b.id) := by
  obtain ⟨aTime, aParsed⟩ := Option.isSome_iff_exists.mp aDate
  obtain ⟨bTime, bParsed⟩ := Option.isSome_iff_exists.mp bDate
  have times : (compareTimes parseDate localeCompare a b < 0 ↔
      aTime < bTime ∨ aTime = bTime ∧ localeCompare a.id b.id < 0) ∧
      (0 < compareTimes parseDate localeCompare a b ↔
        bTime < aTime ∨ aTime = bTime ∧ 0 < localeCompare a.id b.id) := by
    simp only [compareTimes, aParsed, bParsed]
    split
    next differ => simp [differ, sub_neg, sub_pos]
    next same =>
      have equal := not_not.mp same
      simp [equal]
  cases aOffsets : observationTimelineOffsets a with
  | none =>
    cases bOffsets : observationTimelineOffsets b with
    | none => simp [compareSpans, sortKey, aOffsets, bOffsets, aParsed, bParsed, times, Prod.Lex.toLex_lt_toLex]
    | some offsets => simp [compareSpans, sortKey, aOffsets, bOffsets, Prod.Lex.toLex_lt_toLex]
  | some aStart =>
    cases bOffsets : observationTimelineOffsets b with
    | none => simp [compareSpans, sortKey, aOffsets, bOffsets, Prod.Lex.toLex_lt_toLex]
    | some bStart =>
      by_cases same : aStart.startMs = bStart.startMs
      · simp [compareSpans, sortKey, aOffsets, bOffsets, aParsed, bParsed, times, same, Prod.Lex.toLex_lt_toLex]
      · have back : bStart.startMs ≠ aStart.startMs := fun equal => same equal.symm
        simp [compareSpans, sortKey, aOffsets, bOffsets, same, back, sub_neg, sub_pos, Prod.Lex.toLex_lt_toLex]

theorem compareSpans_neg :
    compareSpans parseDate localeCompare a b < 0 ↔ sortKey parseDate a < sortKey parseDate b ∨
      sortKey parseDate a = sortKey parseDate b ∧ localeCompare a.id b.id < 0 :=
  (compareSpans_sign aDate bDate).1

theorem compareSpans_le :
    compareSpans parseDate localeCompare a b ≤ 0 ↔ sortKey parseDate a < sortKey parseDate b ∨
      sortKey parseDate a = sortKey parseDate b ∧ localeCompare a.id b.id ≤ 0 := by
  rw [← not_lt, (compareSpans_sign aDate bDate).2, not_or, not_and, not_lt, not_lt, le_iff_lt_or_eq]
  constructor
  · rintro ⟨less | same, ids⟩
    · exact .inl less
    · exact .inr ⟨same, ids same⟩
  · rintro (less | ⟨same, ids⟩)
    · exact ⟨.inl less, fun equal => absurd equal less.ne⟩
    · exact ⟨.inr same, fun _ => ids⟩

end

section

variable (collates : Collates localeCompare) (aDate : (parseDate a.createdAt).isSome)
  (bDate : (parseDate b.createdAt).isSome)
include collates aDate bDate

theorem compareSpans_total :
    compareSpans parseDate localeCompare a b ≤ 0 ∨ compareSpans parseDate localeCompare b a ≤ 0 := by
  rw [compareSpans_le aDate bDate, compareSpans_le bDate aDate]
  obtain less | same | greater := lt_trichotomy (sortKey parseDate a) (sortKey parseDate b)
  · exact .inl (.inl less)
  · have ids := collates.swap b.id a.id
    by_cases below : localeCompare a.id b.id ≤ 0
    · exact .inl (.inr ⟨same, below⟩)
    · exact .inr (.inr ⟨same.symm, by omega⟩)
  · exact .inr (.inl greater)

theorem compareSpans_trans (cDate : (parseDate c.createdAt).isSome)
    (first : compareSpans parseDate localeCompare a b ≤ 0) (second : compareSpans parseDate localeCompare b c ≤ 0) :
    compareSpans parseDate localeCompare a c ≤ 0 := by
  rw [compareSpans_le aDate bDate] at first
  rw [compareSpans_le bDate cDate] at second
  rw [compareSpans_le aDate cDate]
  obtain less | ⟨same, ids⟩ := first
  · obtain lessToo | ⟨same, _⟩ := second
    · exact .inl (less.trans lessToo)
    · exact .inl (same ▸ less)
  · obtain less | ⟨sameToo, idsToo⟩ := second
    · exact .inl (same ▸ less)
    · exact .inr ⟨same.trans sameToo, collates.trans _ _ _ ids idsToo⟩

end

end

end Vifu.Console
