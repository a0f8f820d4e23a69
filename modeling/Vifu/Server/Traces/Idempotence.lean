import Vifu.Server.Traces.Views

/-!
# Telemetry written twice

Every column that a batch sets is set again to the same value when the batch is persisted again, whatever it
consists of.  The exception is the identity that an observation copies from the root: an event that changes it
afterwards has then changed it before.  The module decides for which batches this makes a difference.
-/

namespace Vifu.Server

open Foundation
open Vifu.Gateway
open Vifu.Runtime hiding validateIdentifier

@[simp] theorem jsonSet_jsonSet (key : String) (number old : ℕ) (value : Value) :
    jsonSet key number (jsonSet key old value) = jsonSet key number value := by
  cases value <;> simp [jsonSet, insertField_insertField]

theorem jsonSet_comm {key other : String} (different : key ≠ other) (number held : ℕ) (value : Value) :
    jsonSet key number (jsonSet other held value) = jsonSet other held (jsonSet key number value) := by
  cases value <;> simp [jsonSet, insertField_comm different]

namespace TraceTables

theorem mergedUsage_mergedUsage (input output earlierInput earlierOutput : Option ℕ) (usage : Option Value) :
    mergedUsage input output (mergedUsage earlierInput earlierOutput usage) =
      mergedUsage (input.or earlierInput) (output.or earlierOutput) usage := by
  have swaps := jsonSet_comm (show "inputTokens" ≠ "outputTokens" by decide)
  cases input <;> cases output <;> cases earlierInput <;> cases earlierOutput <;> simp [mergedUsage, swaps]

/-! ## Markers -/

theorem patchFields_append (target first second : List (String × Value)) :
    patchFields target (first ++ second) = patchFields (patchFields target first) second := by
  induction first generalizing target with
  | nil => rw [List.nil_append, patchFields]
  | cons field first ih =>
    rw [List.cons_append, patchFields, patchFields]
    split <;> exact ih _

def marked (canonical truncated : String) (summary : Option (Value × Bool)) (fields : List (String × Value)) :
    List (String × Value) :=
  summary.elim fields fun entry => insertField truncated (.bool entry.2) (insertField canonical (.bool true) fields)

theorem patchFields_ioMarker (target : List (String × Value)) (canonical truncated : String) (summary : Option (Value × Bool)) :
    patchFields target (ioMarker canonical truncated summary) = marked canonical truncated summary target := by
  cases summary with
  | none => rw [ioMarker, patchFields, marked, Option.elim_none]
  | some summary => simp [ioMarker, patchFields, jsonPatch, marked]

theorem marked_marked {canonical truncated : String} (different : canonical ≠ truncated) (later earlier : Option (Value × Bool))
    (fields : List (String × Value)) :
    marked canonical truncated later (marked canonical truncated earlier fields) =
      marked canonical truncated (later.or earlier) fields := by
  have swaps : ∀ value held fields, insertField canonical value (insertField truncated held fields) =
      insertField truncated held (insertField canonical value fields) := fun _ _ _ => insertField_comm different
  cases later <;> cases earlier <;> simp [marked, swaps, insertField_insertField]

theorem marked_comm (input output : Option (Value × Bool)) (fields : List (String × Value)) :
    marked "inputCanonical" "inputTruncated" input (marked "outputCanonical" "outputTruncated" output fields) =
      marked "outputCanonical" "outputTruncated" output (marked "inputCanonical" "inputTruncated" input fields) := by
  cases input with
  | none => simp [marked]
  | some input =>
    cases output with
    | none => simp [marked]
    | some output =>
      simp only [marked, Option.elim_some]
      rw [insertField_comm (show "inputCanonical" ≠ "outputTruncated" by decide),
        insertField_comm (show "inputCanonical" ≠ "outputCanonical" by decide),
        insertField_comm (show "inputTruncated" ≠ "outputTruncated" by decide),
        insertField_comm (show "inputTruncated" ≠ "outputCanonical" by decide)]

/-- The marker of both summaries in the fields of `_vifuTraceIo`. -/
def markedBoth (input output : Option (Value × Bool)) (fields : List (String × Value)) : List (String × Value) :=
  marked "outputCanonical" "outputTruncated" output (marked "inputCanonical" "inputTruncated" input fields)

theorem markedBoth_markedBoth (input output earlierInput earlierOutput : Option (Value × Bool))
    (fields : List (String × Value)) : markedBoth input output (markedBoth earlierInput earlierOutput fields) =
      markedBoth (input.or earlierInput) (output.or earlierOutput) fields := by
  rw [markedBoth, markedBoth, marked_comm, marked_marked (by decide), marked_marked (by decide), markedBoth]

theorem jsonPatch_traceIoMarker (attributes : Value) (input output : Option (Value × Bool)) :
    jsonPatch attributes (traceIoMarker input output) =
      .object (insertField "_vifuTraceIo"
        (.object (markedBoth input output (fieldsOf ((getField "_vifuTraceIo" (fieldsOf attributes)).getD .null))))
        (fieldsOf attributes)) := by
  simp only [traceIoMarker, jsonPatch, patchFields, reduceCtorEq, if_false, patchFields_append, patchFields_ioMarker,
    markedBoth]

end TraceTables

namespace RootEntries

open TraceTables

theorem get?_eq (key : String) (value : Value) : value.get? key = getField key (fieldsOf value) := by
  cases value <;> rfl

theorem jsonPatch_jsonPatch (attributes : Value) (input output earlierInput earlierOutput : Option (Value × Bool)) :
    jsonPatch (jsonPatch attributes (traceIoMarker earlierInput earlierOutput)) (traceIoMarker input output) =
      jsonPatch attributes (traceIoMarker (input.or earlierInput) (output.or earlierOutput)) := by
  have found : ∀ value fields, getField "_vifuTraceIo" (insertField "_vifuTraceIo" value fields) = some value :=
    fun _ _ => getField_insertField
  simp only [jsonPatch_traceIoMarker, fieldsOf, found, Option.getD_some, markedBoth_markedBoth,
    insertField_insertField]

theorem patched_patched (later earlier : RootEntries) (attributes : Value) :
    later.patched (earlier.patched attributes) = (later.after earlier).patched attributes := by
  by_cases unset : later.input.isNone ∧ later.output.isNone
  · have noInput := Option.isNone_iff_eq_none.mp unset.1
    have noOutput := Option.isNone_iff_eq_none.mp unset.2
    simp [patched, after, noInput, noOutput]
  · by_cases first : earlier.input.isNone ∧ earlier.output.isNone
    · have noInput := Option.isNone_iff_eq_none.mp first.1
      have noOutput := Option.isNone_iff_eq_none.mp first.2
      simp [patched, after, noInput, noOutput]
    · have someSet : ¬((later.after earlier).input.isNone ∧ (later.after earlier).output.isNone) := by
        simp only [after, Option.isNone_iff_eq_none, Option.or_eq_none_iff] at unset ⊢
        intro absent
        exact unset ⟨absent.1.1, absent.2.1⟩
      rw [patched, if_neg unset, patched, if_neg first, patched, if_neg someSet, jsonPatch_jsonPatch, after]

theorem outputIsCanonical_patched (entries : RootEntries) (attributes : Value) :
    outputIsCanonical (entries.patched attributes) = (entries.output.isSome || outputIsCanonical attributes) := by
  have reads : ∀ value : Value, outputIsCanonical value =
      (getField "outputCanonical" (fieldsOf ((getField "_vifuTraceIo" (fieldsOf value)).getD .null))).any isOne := by
    intro value
    rw [outputIsCanonical, get?_eq]
    cases getField "_vifuTraceIo" (fieldsOf value) with
    | none => rfl
    | some marker => rw [Option.bind_some, get?_eq, Option.getD_some]
  rw [patched]
  split
  next unset => simp [Option.isNone_iff_eq_none.mp unset.2]
  next =>
    have found : ∀ value fields, getField "_vifuTraceIo" (insertField "_vifuTraceIo" value fields) = some value :=
      fun _ _ => getField_insertField
    rw [reads, jsonPatch_traceIoMarker, fieldsOf, found, Option.getD_some, fieldsOf, reads]
    cases entries.output with
    | none =>
      cases entries.input with
      | none => simp [markedBoth, marked]
      | some input =>
        simp [markedBoth, marked, getField_insertField_of_ne (show "outputCanonical" ≠ "inputTruncated" by decide),
          getField_insertField_of_ne (show "outputCanonical" ≠ "inputCanonical" by decide)]
    | some output =>
      simp [markedBoth, marked, getField_insertField_of_ne (show "outputCanonical" ≠ "outputTruncated" by decide),
        getField_insertField, isOne]

theorem apply_apply (later earlier : RootEntries) (root : TraceSpan) :
    later.apply (earlier.apply root) = (later.after earlier).apply root := by
  simp only [apply, after, Option.or_assoc, mergedUsage_mergedUsage, patched_patched, Option.map_or]

theorem applyTrace_applyTrace (later earlier : RootEntries) (trace : EndpointTrace) :
    later.applyTrace (earlier.applyTrace trace) = (later.after earlier).applyTrace trace := by
  simp only [applyTrace, after, Option.or_assoc]

theorem after_self (entries : RootEntries) : entries.after entries = entries := by
  simp only [after, Option.or_self]

end RootEntries

/-! ## Reports that fit -/

/-- The columns of a span that a later observation must match. -/
structure SpanShape where
  traceId : Uuid
  parentSpanId : Option Uuid
  name : String
  kind : String
  observationType : ObservationType
  deriving DecidableEq

def TraceSpan.shape (span : TraceSpan) : SpanShape where
  traceId := span.traceId
  parentSpanId := span.parentSpanId
  name := span.name
  kind := span.kind
  observationType := span.observationType

variable {observation : RuntimeTraceObservation} {view : TraceView}

namespace RuntimeTraceObservation

def shape (observation : RuntimeTraceObservation) : SpanShape where
  traceId := observation.traceId
  parentSpanId := observation.parentSpanId
  name := observation.name
  kind := observation.kind
  observationType := observation.observationType

theorem matchesSpan_iff {span : TraceSpan} :
    observation.matchesSpan span = true ↔ span.shape = observation.shape := by
  simp [matchesSpan, TraceSpan.shape, shape, and_assoc]

end RuntimeTraceObservation

namespace Report

def placed (target : RuntimeTraceTarget) (report : Report) : Option (Uuid × SpanShape) :=
  report.observation.map fun description => ((description.describe target).id, (description.describe target).shape)

theorem placed_congr {target other : RuntimeTraceTarget} (report : Report) (sameTrace : target.traceId = other.traceId)
    (sameParent : target.parentSpanId = other.parentSpanId) : report.placed target = report.placed other := by
  rw [placed]
  congr 1
  funext description
  have ofTrace : (description.describe other).traceId = other.traceId := by
    rw [description.uniform other other]
    rfl
  have below : (description.describe other).parentSpanId = other.parentSpanId := by
    rw [description.uniform other other]
    rfl
  rw [description.uniform target other]
  simp [RuntimeTraceObservation.retarget, RuntimeTraceObservation.shape, sameTrace, sameParent, ofTrace, below]

/-- The reports up to the first that is refused, by the shapes of the spans that are there. -/
def fitting (target : RuntimeTraceTarget) (known : Uuid → Option SpanShape) : List Report → List Report
  | [] => []
  | report :: reports =>
    match report.placed target with
    | none => report :: fitting target known reports
    | some (id, shape) =>
      if ∀ there ∈ known id, there = shape then
        report :: fitting target (Function.update known id (some shape)) reports
      else []

def entriesOf : List Report → RootEntries
  | [] => {}
  | report :: reports => (entriesOf reports).after report.entries

def lastObservation (id : Uuid) (target : RuntimeTraceTarget) : List Report → Option RuntimeTraceObservation
  | [] => none
  | report :: reports =>
    (lastObservation id (report.entries.seen target) reports).or
      ((report.observation.map fun description => description.describe (report.entries.seen target)).filter
        fun observation => observation.id = id)

def learned (target : RuntimeTraceTarget) (known : Uuid → Option SpanShape) : List Report → Uuid → Option SpanShape
  | [] => known
  | report :: reports =>
    match report.placed target with
    | none => learned target known reports
    | some (id, shape) => learned target (Function.update known id (some shape)) reports

section

variable {target : RuntimeTraceTarget} {known : Uuid → Option SpanShape} {report : Report} {reports : List Report}

theorem fitting_unplaced (absent : report.placed target = none) :
    fitting target known (report :: reports) = report :: fitting target known reports := by
  rw [fitting, absent]

theorem learned_unplaced (absent : report.placed target = none) :
    learned target known (report :: reports) = learned target known reports := by
  rw [learned, absent]

variable {id : Uuid} {shape : SpanShape}

section

variable (isPlace : report.placed target = some (id, shape))
include isPlace

theorem fitting_accepted (fits : ∀ there ∈ known id, there = shape) : fitting target known (report :: reports) =
      report :: fitting target (Function.update known id (some shape)) reports := by
  rw [fitting, isPlace]
  exact if_pos fits

theorem fitting_refused (refuses : ¬∀ there ∈ known id, there = shape) :
    fitting target known (report :: reports) = [] := by
  rw [fitting, isPlace]
  exact if_neg refuses

theorem learned_placed :
    learned target known (report :: reports) = learned target (Function.update known id (some shape)) reports := by
  rw [learned, isPlace]

end

theorem learned_of_known (reports : List Report) {id : Uuid} {shape : SpanShape}
    (isKnown : known id = some shape) : learned target known (fitting target known reports) id = some shape := by
  induction reports generalizing known with
  | nil => exact isKnown
  | cons report reports ih =>
    cases isPlace : report.placed target with
    | none =>
      rw [fitting_unplaced isPlace, learned_unplaced isPlace]
      exact ih isKnown
    | some place =>
      by_cases fits : ∀ there ∈ known place.1, there = place.2
      · rw [fitting_accepted isPlace fits, learned_placed isPlace]
        apply ih
        by_cases same : id = place.1
        · rw [same, Function.update_self, fits shape (same ▸ isKnown)]
        · rw [Function.update_of_ne same, isKnown]
      · rw [fitting_refused isPlace fits]
        exact isKnown

theorem fitting_again (reports : List Report) {known after : Uuid → Option SpanShape}
    (knows : ∀ id shape, learned target known (fitting target known reports) id = some shape → after id = some shape) :
    fitting target after reports = fitting target known reports ∧
      learned target after (fitting target known reports) = after := by
  induction reports generalizing known with
  | nil => exact ⟨rfl, rfl⟩
  | cons report reports ih =>
    cases isPlace : report.placed target with
    | none =>
      rw [fitting_unplaced isPlace, learned_unplaced isPlace] at knows
      obtain ⟨sameFit, sameKnown⟩ := ih knows
      rw [fitting_unplaced isPlace, fitting_unplaced isPlace, learned_unplaced isPlace, sameFit]
      exact ⟨rfl, sameKnown⟩
    | some place =>
      by_cases fits : ∀ there ∈ known place.1, there = place.2
      · rw [fitting_accepted isPlace fits, learned_placed isPlace] at knows
        obtain ⟨sameFit, sameKnown⟩ := ih knows
        have isThere : after place.1 = some place.2 :=
          knows _ _ (learned_of_known reports (Function.update_self _ _ _))
        have same : Function.update after place.1 (some place.2) = after := by
          rw [← isThere, Function.update_eq_self]
        have fitsAfter : ∀ there ∈ after place.1, there = place.2 := by simp [isThere]
        rw [fitting_accepted isPlace fits, fitting_accepted isPlace fitsAfter, learned_placed isPlace, same, sameFit]
        exact ⟨rfl, sameKnown⟩
      · have refuses : ¬∀ there ∈ after place.1, there = place.2 := by
          intro fitsAfter
          apply fits
          intro there isThere
          apply fitsAfter
          apply knows
          rw [fitting_refused isPlace fits]
          exact isThere
        rw [fitting_refused isPlace fits, fitting_refused isPlace refuses]
        exact ⟨rfl, rfl⟩

theorem fitting_seen (entries : RootEntries) (known : Uuid → Option SpanShape) (reports : List Report) :
    fitting (entries.seen target) known reports = fitting target known reports := by
  induction reports generalizing known with
  | nil => rfl
  | cons report reports ih =>
    have samePlace : report.placed (entries.seen target) = report.placed target := placed_congr report rfl rfl
    cases isPlace : report.placed target with
    | none => rw [fitting_unplaced isPlace, fitting_unplaced (samePlace.trans isPlace), ih]
    | some place =>
      by_cases fits : ∀ there ∈ known place.1, there = place.2
      · rw [fitting_accepted isPlace fits, fitting_accepted (samePlace.trans isPlace) fits, ih]
      · rw [fitting_refused isPlace fits, fitting_refused (samePlace.trans isPlace) fits]

theorem learned_seen (entries : RootEntries) (known : Uuid → Option SpanShape) (reports : List Report) :
    learned (entries.seen target) known reports = learned target known reports := by
  induction reports generalizing known with
  | nil => rfl
  | cons report reports ih =>
    have samePlace : report.placed (entries.seen target) = report.placed target := placed_congr report rfl rfl
    cases isPlace : report.placed target with
    | none => rw [learned_unplaced isPlace, learned_unplaced (samePlace.trans isPlace), ih]
    | some place => rw [learned_placed isPlace, learned_placed (samePlace.trans isPlace), ih]

theorem observation_of_placed {place : Uuid × SpanShape} (isPlace : report.placed target = some place) :
    ∃ description, report.observation = some description ∧
      (description.describe (report.entries.seen target)).id = place.1 ∧
      (description.describe (report.entries.seen target)).shape = place.2 := by
  have samePlace : report.placed (report.entries.seen target) = report.placed target := placed_congr report rfl rfl
  rw [← samePlace, placed, Option.map_eq_some_iff] at isPlace
  obtain ⟨description, isDescription, rfl⟩ := isPlace
  exact ⟨description, isDescription, rfl, rfl⟩

theorem observation_unplaced (absent : report.placed target = none) : report.observation = none := by
  rwa [placed, Option.map_eq_none_iff] at absent

theorem lastObservation_fits (reports : List Report) (isKnown : known id = some shape)
    (isLast : lastObservation id target (fitting target known reports) = some observation) :
    observation.id = id ∧ observation.shape = shape := by
  induction reports generalizing target known with
  | nil => simp [fitting, lastObservation] at isLast
  | cons report reports ih =>
    cases isPlace : report.placed target with
    | none =>
      rw [fitting_unplaced isPlace, lastObservation, observation_unplaced isPlace] at isLast
      rw [Option.map_none, Option.filter_none, Option.or_none, ← fitting_seen report.entries] at isLast
      exact ih isKnown isLast
    | some place =>
      by_cases fits : ∀ there ∈ known place.1, there = place.2
      · obtain ⟨description, isDescription, sameId, sameShape⟩ := observation_of_placed isPlace
        rw [fitting_accepted isPlace fits, lastObservation, isDescription, Option.map_some, ← fitting_seen report.entries,
          Option.or_eq_some_iff] at isLast
        rcases isLast with later | ⟨_, own⟩
        · apply ih _ later
          by_cases same : id = place.1
          · rw [same, Function.update_self, fits shape (same ▸ isKnown)]
          · rw [Function.update_of_ne same, isKnown]
        · rw [Option.filter_eq_some_iff, Option.some.injEq] at own
          obtain ⟨rfl, isId⟩ := own
          have named : place.1 = id := sameId.symm.trans (of_decide_eq_true isId)
          exact ⟨of_decide_eq_true isId, sameShape.trans (fits shape (named ▸ isKnown)).symm⟩
      · rw [fitting_refused isPlace fits] at isLast
        simp [lastObservation] at isLast

theorem lastObservation_target {reports : List Report}
    (isLast : lastObservation id target reports = some observation) :
    observation.traceId = target.traceId ∧ observation.parentSpanId = target.parentSpanId := by
  induction reports generalizing target with
  | nil => contradiction
  | cons report reports ih =>
    rcases Option.or_eq_some_iff.mp isLast with later | ⟨_, own⟩
    · obtain ⟨ofTrace, below⟩ := ih later
      exact ⟨ofTrace, below⟩
    · obtain ⟨isOwn, _⟩ := Option.filter_eq_some_iff.mp own
      obtain ⟨description, _, rfl⟩ := Option.map_eq_some_iff.mp isOwn
      rw [description.uniform _ target]
      exact ⟨rfl, rfl⟩

theorem lastObservation_retarget (base : RuntimeTraceTarget) (reports : List Report) (target other : RuntimeTraceTarget) :
    (lastObservation id target reports).map (·.retarget base) = (lastObservation id other reports).map (·.retarget base) := by
  induction reports generalizing target other with
  | nil => rfl
  | cons report reports ih =>
    rw [lastObservation, lastObservation, Option.map_or, Option.map_or, ih _ (report.entries.seen other)]
    congr 1
    cases report.observation with
    | none => rfl
    | some description =>
      have same : ∀ seen, (description.describe seen).id = (description.describe base).id := by
        intro seen
        rw [description.uniform seen base]
        rfl
      have described : ∀ seen, (description.describe seen).retarget base = description.describe base :=
        fun seen => (description.uniform base seen).symm
      rw [Option.map_some, Option.map_some, Option.filter_some, Option.filter_some, same (report.entries.seen target),
        same (report.entries.seen other)]
      split
      · rw [Option.map_some, Option.map_some, described, described]
      · rfl

end

end Report

/-! ## What a run leaves -/

namespace TraceView

open Report

variable {clock : Clock} {report : Report} {reports : List Report} {before : Option TraceSpan}

def shapes (view : TraceView) (id : Uuid) : Option SpanShape := (view.spanOf id).map TraceSpan.shape

theorem shapes_write (view : TraceView) (entries : RootEntries) : (view.write entries).shapes = view.shapes := by
  funext id
  rw [shapes, shapes, spanOf, spanOf]
  show (if id = view.root.id then some (entries.apply view.root) else view.others id).map TraceSpan.shape = _
  split <;> rfl

theorem target_write (view : TraceView) (entries : RootEntries) : (view.write entries).target = entries.seen view.target := by
  simp only [target, write, RootEntries.apply, RootEntries.applyTrace, RootEntries.seen]
  cases entries.providerKey <;> cases entries.capabilityKind <;> simp

theorem placed_write (view : TraceView) (entries : RootEntries) (report : Report) :
    report.placed (view.write entries).target = report.placed view.target :=
  placed_congr report rfl rfl

theorem refuses_iff :
    view.Refuses observation ↔ ¬∀ there ∈ view.shapes observation.id, there = observation.shape := by
  simp only [Refuses, shapes, Option.mem_def, Option.map_eq_some_iff, not_forall, ← Bool.not_eq_true,
    RuntimeTraceObservation.matchesSpan_iff]
  grind

theorem shape_stored
    (fits : ∀ span ∈ before, span.shape = observation.shape) : (stored clock observation before).shape = observation.shape := by
  cases before with
  | none => rfl
  | some span => exact fits span rfl

theorem stored_stored {observation earlier : RuntimeTraceObservation}
    (sameId : earlier.id = observation.id) (sameShape : earlier.shape = observation.shape) :
    stored clock observation (some (stored clock earlier before)) = stored clock observation before := by
  simp only [RuntimeTraceObservation.shape, SpanShape.mk.injEq] at sameShape
  cases before with
  | none => simp [stored, RuntimeTraceObservation.row, RuntimeTraceObservation.replace, sameId, sameShape]
  | some span => rfl

theorem receive_unplaced (absent : report.placed view.target = none) :
    view.receive clock report = (true, view.write report.entries) := by
  rw [placed, Option.map_eq_none_iff] at absent
  rw [receive, absent]
  rfl

variable {place : Uuid × SpanShape}

theorem receive_placed (isPlace : report.placed view.target = some place) :
    ∃ description, report.observation = some description ∧
      (description.describe (report.entries.seen view.target)).id = place.1 ∧
      (description.describe (report.entries.seen view.target)).shape = place.2 ∧
      view.receive clock report =
        if ∀ there ∈ view.shapes place.1, there = place.2 then
          (true, (view.write report.entries).store clock (description.describe (report.entries.seen view.target)))
        else (false, view.write report.entries) := by
  rw [← placed_write view report.entries, placed, Option.map_eq_some_iff, target_write] at isPlace
  obtain ⟨description, isDescription, rfl⟩ := isPlace
  refine ⟨description, isDescription, rfl, rfl, ?_⟩
  rw [receive, isDescription, observe, target_write, ← shapes_write view report.entries]
  split
  next refuses => rw [if_neg (refuses_iff.mp refuses)]
  next accepts => rw [if_pos (not_not.mp fun differs => accepts (refuses_iff.mpr differs))]

theorem ne_root (topmost : view.root.parentSpanId = none) (isPlace : report.placed view.target = some place)
    (fits : ∀ there ∈ view.shapes place.1, there = place.2) : place.1 ≠ view.root.id := by
  intro isRoot
  have shape := fits view.root.shape (by rw [isRoot, shapes, spanOf_root]; rfl)
  rw [placed, Option.map_eq_some_iff] at isPlace
  obtain ⟨description, _, rfl⟩ := isPlace
  have below : (description.describe view.target).parentSpanId = some view.root.id := by
    rw [description.uniform view.target view.target]
    rfl
  have noParent := congrArg SpanShape.parentSpanId shape
  rw [TraceSpan.shape, topmost] at noParent
  exact absurd (noParent.trans below) (by simp)

theorem shapes_store (notRoot : observation.id ≠ view.root.id)
    (fits : ∀ there ∈ view.shapes observation.id, there = observation.shape) :
    (view.store clock observation).shapes = Function.update view.shapes observation.id (some observation.shape) := by
  funext id
  by_cases same : id = observation.id
  · subst same
    have isOther : view.shapes observation.id = (view.others observation.id).map TraceSpan.shape := by
      rw [shapes, spanOf_of_ne notRoot]
    rw [Function.update_self, shapes]
    show (if observation.id = view.root.id then some view.root
      else Function.update view.others observation.id _ observation.id).map TraceSpan.shape = _
    rw [if_neg notRoot, Function.update_self, Option.map_some, shape_stored]
    intro span isSpan
    apply fits
    rw [isOther, Option.mem_def.mp isSpan]
    rfl
  · rw [Function.update_of_ne same, shapes, shapes]
    congr 1
    rw [spanOf, spanOf]
    show (if id = view.root.id then some view.root else Function.update view.others observation.id _ id) = _
    rw [Function.update_of_ne same]

/-- What a run of reports leaves of a view: the columns that the reports set up to the first that is refused, and the
last observation of each id. -/
structure Leaves (view : TraceView) (clock : Clock) (reports : List Report) (after : TraceView) : Prop where
  root : after.root =
    (entriesOf (reports.take ((fitting view.target view.shapes reports).length + 1))).apply view.root
  trace : after.trace =
    (entriesOf (reports.take ((fitting view.target view.shapes reports).length + 1))).applyTrace view.trace
  shapes : after.shapes = learned view.target view.shapes (fitting view.target view.shapes reports)
  others : ∀ id, after.others id =
    ((lastObservation id view.target (fitting view.target view.shapes reports)).map fun observation =>
      stored clock observation (view.others id)).or (view.others id)

theorem run_leaves (reports : List Report) (topmost : view.root.parentSpanId = none) :
    view.Leaves clock reports (run clock reports view).2 := by
  induction reports generalizing view with
  | nil => exact ⟨rfl, rfl, rfl, fun _ => rfl⟩
  | cons report reports ih =>
    cases isPlace : report.placed view.target with
    | none =>
      have isRun : run clock (report :: reports) view = run clock reports (view.write report.entries) := by
        rw [run, receive_unplaced isPlace]
        rfl
      have sameFit : fitting (view.write report.entries).target (view.write report.entries).shapes reports =
          fitting view.target view.shapes reports := by
        rw [target_write, shapes_write, fitting_seen]
      have later : (view.write report.entries).Leaves clock reports (run clock reports (view.write report.entries)).2 :=
        ih topmost
      rw [isRun]
      constructor
      case root =>
        rw [later.root, sameFit, fitting_unplaced isPlace, List.take_succ_cons, entriesOf]
        exact RootEntries.apply_apply _ _ _
      case trace =>
        rw [later.trace, sameFit, fitting_unplaced isPlace, List.take_succ_cons, entriesOf]
        exact RootEntries.applyTrace_applyTrace _ _ _
      case shapes =>
        rw [later.shapes, sameFit, target_write, learned_seen, shapes_write, fitting_unplaced isPlace,
          learned_unplaced isPlace]
      case others =>
        intro id
        rw [later.others, sameFit, target_write, fitting_unplaced isPlace, lastObservation, observation_unplaced isPlace,
          Option.map_none, Option.filter_none, Option.or_none]
        rfl
    | some place =>
      obtain ⟨id, shape⟩ := place
      obtain ⟨description, isDescription, sameId, sameShape, isReceived⟩ :=
        receive_placed isPlace
      subst sameId sameShape
      generalize isObservation : description.describe (report.entries.seen view.target) = observation at *
      by_cases fits : ∀ there ∈ view.shapes observation.id, there = observation.shape
      · have isRun : run clock (report :: reports) view =
            run clock reports ((view.write report.entries).store clock observation) := by
          rw [run, isReceived, if_pos fits]
          rfl
        have notRoot : observation.id ≠ view.root.id := ne_root topmost isPlace fits
        have later : ((view.write report.entries).store clock observation).Leaves clock reports
            (run clock reports ((view.write report.entries).store clock observation)).2 := ih topmost
        have isTarget : ((view.write report.entries).store clock observation).target = report.entries.seen view.target :=
          target_write view report.entries
        have isShapes : ((view.write report.entries).store clock observation).shapes =
            Function.update view.shapes observation.id (some observation.shape) := by
          have fitsWritten : ∀ there ∈ (view.write report.entries).shapes observation.id, there = observation.shape := by
            rwa [shapes_write]
          have notWritten : observation.id ≠ (view.write report.entries).root.id := notRoot
          rw [shapes_store notWritten fitsWritten, shapes_write]
        have sameFit : fitting view.target view.shapes (report :: reports) = _ := fitting_accepted isPlace fits
        rw [isRun]
        constructor
        case root =>
          rw [later.root, isTarget, isShapes, fitting_seen, sameFit, List.take_succ_cons, entriesOf]
          exact RootEntries.apply_apply _ _ _
        case trace =>
          rw [later.trace, isTarget, isShapes, fitting_seen, sameFit, List.take_succ_cons, entriesOf]
          exact RootEntries.applyTrace_applyTrace _ _ _
        case shapes => rw [later.shapes, isTarget, isShapes, fitting_seen, learned_seen, sameFit, learned_placed isPlace]
        case others =>
          intro id
          have isOther : ((view.write report.entries).store clock observation).others id =
              Function.update view.others observation.id
                (some (stored clock observation (view.others observation.id))) id := rfl
          rw [later.others, isTarget, isShapes, fitting_seen, sameFit, lastObservation, isDescription, Option.map_some,
            isObservation, isOther]
          by_cases same : id = observation.id
          · subst same
            rw [Function.update_self, Option.filter_some, if_pos (decide_eq_true rfl)]
            cases isLast : lastObservation observation.id (report.entries.seen view.target)
                (fitting view.target (Function.update view.shapes observation.id (some observation.shape)) reports) with
            | none => rfl
            | some last =>
              -- the later observation replaces the columns that this one has stored
              rw [← fitting_seen report.entries] at isLast
              obtain ⟨sameId, sameShape⟩ := lastObservation_fits reports (Function.update_self _ _ _) isLast
              rw [Option.map_some, Option.some_or, Option.some_or, Option.map_some, Option.some_or,
                stored_stored sameId.symm sameShape.symm]
          · have differs : decide (observation.id = id) = false := decide_eq_false (Ne.symm same)
            rw [Function.update_of_ne same, Option.filter_some, if_neg (by simp [differs]), Option.or_none]
      · have isRun : run clock (report :: reports) view = (false, view.write report.entries) := by
          rw [run, isReceived, if_neg fits]
          rfl
        have noFit : fitting view.target view.shapes (report :: reports) = [] := fitting_refused isPlace fits
        rw [isRun]
        constructor
        case root => rw [noFit]; rfl
        case trace => rw [noFit]; rfl
        case shapes => rw [noFit]; exact shapes_write view report.entries
        case others => rw [noFit]; exact fun _ => rfl

theorem Leaves.target {after : TraceView} (leaves : view.Leaves clock reports after) : after.target =
      (entriesOf (reports.take ((fitting view.target view.shapes reports).length + 1))).seen view.target := by
  rw [← target_write]
  simp only [TraceView.target, write, leaves.root, leaves.trace]

/-! ## A second run -/

def SameSpan : Option TraceSpan → Option TraceSpan → Prop
  | none, none => True
  | some span, some other => { span with createdAt := other.createdAt, completedAt := other.completedAt } = other
  | none, some _ => False
  | some _, none => False

instance (first second : Option TraceSpan) : Decidable (SameSpan first second) :=
  match first, second with
  | none, none => .isTrue trivial
  | some _, some _ => inferInstanceAs (Decidable (_ = _))
  | none, some _ => .isFalse id
  | some _, none => .isFalse id

theorem sameSpan_refl (span : Option TraceSpan) : SameSpan span span := by
  cases span with
  | none => trivial
  | some span => rfl

section

variable {first second : Clock}

theorem sameSpan_stored_iff {base : RuntimeTraceTarget} {observation later : RuntimeTraceObservation}
    (same : later.retarget base = observation.retarget base) (sameTrace : later.traceId = observation.traceId)
    (sameParent : later.parentSpanId = observation.parentSpanId) :
    SameSpan (some (stored second later (some (stored first observation before)))) (some (stored first observation before)) ↔
      observation = later := by
  have sameContent := same
  simp only [RuntimeTraceObservation.retarget, RuntimeTraceObservation.mk.injEq] at sameContent
  constructor
  · intro unchanged
    have sameIdentity : observation.providerKey = later.providerKey ∧
        observation.capabilityKind = later.capabilityKind ∧ observation.model = later.model := by
      cases before <;> simp only [SameSpan, stored, RuntimeTraceObservation.replace, RuntimeTraceObservation.row,
        TraceSpan.mk.injEq] at unchanged <;> grind
    rw [RuntimeTraceObservation.ext_iff]
    grind
  · intro isSame
    subst isSame
    cases before <;> rfl

section

variable (topmost : view.root.parentSpanId = none)
include topmost

theorem fitting_after : fitting (run first reports view).2.target (run first reports view).2.shapes reports =
      fitting view.target view.shapes reports := by
  have leaves : view.Leaves first reports (run first reports view).2 := run_leaves reports topmost
  rw [leaves.target, fitting_seen, leaves.shapes]
  exact (fitting_again reports fun _ _ isKnown => isKnown).1

theorem root_twice :
    (run second reports (run first reports view).2).2.root = (run first reports view).2.root := by
  have leaves : view.Leaves first reports (run first reports view).2 := run_leaves reports topmost
  have stays : (run first reports view).2.root.parentSpanId = none := by
    rw [leaves.root]
    exact topmost
  rw [(run_leaves reports stays).root, fitting_after topmost, leaves.root, RootEntries.apply_apply, RootEntries.after_self]

theorem lastObservation_root (entries : RootEntries) :
    lastObservation view.root.id (entries.seen view.target) (fitting view.target view.shapes reports) = none := by
  have isKnown : view.shapes view.root.id = some view.root.shape := by
    rw [shapes, spanOf_root]
    rfl
  rw [← fitting_seen entries, Option.eq_none_iff_forall_ne_some]
  intro observation isLast
  have noParent := congrArg SpanShape.parentSpanId (lastObservation_fits reports isKnown isLast).2
  have below : observation.parentSpanId = some view.root.id := (lastObservation_target isLast).2
  exact absurd (below.symm.trans (noParent.trans topmost)) (by simp)

theorem spans_twice_iff :
    (∀ id, SameSpan ((run second reports (run first reports view).2).2.spanOf id) ((run first reports view).2.spanOf id)) ↔
      ∀ id, lastObservation id view.target (fitting view.target view.shapes reports) =
        lastObservation id (run first reports view).2.target (fitting view.target view.shapes reports) := by
  have leaves : view.Leaves first reports (run first reports view).2 := run_leaves reports topmost
  have stays : (run first reports view).2.root.parentSpanId = none := by
    rw [leaves.root]
    exact topmost
  have again : (run first reports view).2.Leaves second reports (run second reports (run first reports view).2).2 :=
    run_leaves reports stays
  have sameRoot : (run second reports (run first reports view).2).2.root = (run first reports view).2.root :=
    root_twice topmost
  have rootId : (run first reports view).2.root.id = view.root.id := by
    rw [leaves.root]
    rfl
  apply forall_congr'
  intro id
  by_cases isRoot : id = view.root.id
  · subst isRoot
    have noFirst : lastObservation view.root.id view.target (fitting view.target view.shapes reports) = none :=
      lastObservation_root topmost {}
    have noSecond : lastObservation view.root.id (run first reports view).2.target
        (fitting view.target view.shapes reports) = none := by
      rw [leaves.target]
      exact lastObservation_root topmost _
    rw [noFirst, noSecond, ← rootId, spanOf_root, ← sameRoot, spanOf_root]
    exact iff_of_true (sameSpan_refl _) rfl
  · have otherFirst : (run first reports view).2.spanOf id = (run first reports view).2.others id :=
      spanOf_of_ne (by rwa [rootId])
    have otherSecond : (run second reports (run first reports view).2).2.spanOf id =
        (run second reports (run first reports view).2).2.others id := spanOf_of_ne (by rwa [sameRoot, rootId])
    have alike : (lastObservation id view.target (fitting view.target view.shapes reports)).map (·.retarget view.target) =
        (lastObservation id (run first reports view).2.target
          (fitting view.target view.shapes reports)).map (·.retarget view.target) := lastObservation_retarget _ _ _ _
    rw [otherFirst, otherSecond, again.others, fitting_after topmost, leaves.others]
    cases isLast : lastObservation id view.target (fitting view.target view.shapes reports) with
    | none =>
      rw [isLast, Option.map_none, eq_comm, Option.map_eq_none_iff] at alike
      rw [alike]
      exact iff_of_true (sameSpan_refl _) rfl
    | some observation =>
      rw [isLast, Option.map_some, eq_comm, Option.map_eq_some_iff] at alike
      obtain ⟨later, isLater, same⟩ := alike
      have ofTrace : later.traceId = observation.traceId := by
        rw [(lastObservation_target isLater).1, (lastObservation_target isLast).1, leaves.target]
        rfl
      have below : later.parentSpanId = observation.parentSpanId := by
        rw [(lastObservation_target isLater).2, (lastObservation_target isLast).2, leaves.target]
        rfl
      rw [isLater, Option.map_some, Option.map_some, Option.some_or, Option.some.injEq]
      exact sameSpan_stored_iff same ofTrace below

end

end

section

variable (completed : Clock) (status : String) (durationMs : ℕ) (outputSummary : Option Value) (error : Option String)

/-- What `complete_trace_span` does to a span. -/
def ended (span : TraceSpan) : TraceSpan :=
  { span with
    status
    durationMs := some durationMs
    outputSummary :=
      if TraceTables.outputIsCanonical span.attributes then span.outputSummary else outputSummary.map redactTraceValue
    error := error.map redactTraceText
    completedAt := some (.now completed) }

theorem summaries_ended (entries : RootEntries) (root : TraceSpan) :
    (ended completed status durationMs outputSummary error (entries.apply root)).inputSummary =
        (entries.apply (ended completed status durationMs outputSummary error root)).inputSummary ∧
      (ended completed status durationMs outputSummary error (entries.apply root)).outputSummary =
        (entries.apply (ended completed status durationMs outputSummary error root)).outputSummary := by
  constructor
  · rfl
  · simp only [ended, RootEntries.apply, RootEntries.outputIsCanonical_patched]
    cases entries.output <;> simp

def complete (view : TraceView) (change : TraceSpan → TraceSpan) : TraceView := { view with root := change view.root }

theorem shapes_complete (view : TraceView) :
    (view.complete (ended completed status durationMs outputSummary error)).shapes = view.shapes := by
  funext id
  rw [shapes, shapes, spanOf, spanOf]
  show (if id = view.root.id then
    some (ended completed status durationMs outputSummary error view.root) else view.others id).map TraceSpan.shape = _
  split <;> rfl

theorem root_complete (topmost : view.root.parentSpanId = none) :
    (run clock reports (view.complete (ended completed status durationMs outputSummary error))).2.root =
      (entriesOf (reports.take ((fitting view.target view.shapes reports).length + 1))).apply
        (ended completed status durationMs outputSummary error view.root) := by
  have leaves : (view.complete (ended completed status durationMs outputSummary error)).Leaves clock reports
      (run clock reports (view.complete (ended completed status durationMs outputSummary error))).2 :=
    run_leaves reports topmost
  rw [leaves.root, shapes_complete]
  rfl

end

end TraceView

namespace Report

theorem entriesOf_append (first second : List Report) :
    entriesOf (first ++ second) = (entriesOf second).after (entriesOf first) := by
  induction first with
  | nil => simp [entriesOf, RootEntries.after]
  | cons report first ih =>
    rw [List.cons_append, entriesOf, ih, entriesOf]
    simp only [RootEntries.after, Option.or_assoc]

theorem entriesOf_events (events : List TraceTelemetry) :
    (entriesOf (events.map eventReport)).input = none ∧ (entriesOf (events.map eventReport)).output = none := by
  induction events with
  | nil => exact ⟨rfl, rfl⟩
  | cons event events ih =>
    have none : (eventReport event).entries.input = none ∧ (eventReport event).entries.output = none := by
      cases event with
      | invocationStarted providerKey capability model => exact ⟨rfl, rfl⟩
      | providerStage stage =>
        rw [eventReport]
        split <;> exact ⟨rfl, rfl⟩
      | delivery delivery => exact ⟨rfl, rfl⟩
    rw [List.map_cons, entriesOf, RootEntries.after, ih.1, ih.2, none.1, none.2]
    exact ⟨rfl, rfl⟩

theorem entriesOf_batch (requestId : Uuid) (batch : TraceTelemetryBatch) (turns : ℕ) :
    (entriesOf ((batchReports requestId batch).take (turns + 1))).input =
        (if batch.events.length ≤ turns then batch.rootInputSummary.map summaryColumns else none) ∧
      (entriesOf ((batchReports requestId batch).take (turns + 1))).output =
        (if batch.events.length ≤ turns then batch.rootOutputSummary.map summaryColumns else none) := by
  rw [batchReports]
  by_cases all : batch.events.length ≤ turns
  · have whole : (batch.events.map eventReport ++ [batchReport requestId batch]).take (turns + 1) =
        batch.events.map eventReport ++ [batchReport requestId batch] := by
      apply List.take_of_length_le
      simpa using all
    rw [whole, entriesOf_append, RootEntries.after, (entriesOf_events batch.events).1, (entriesOf_events batch.events).2,
      if_pos all, if_pos all]
    simp [entriesOf, batchReport, RootEntries.after]
  · have few : turns + 1 ≤ (batch.events.map eventReport).length := by
      rw [List.length_map]
      omega
    rw [List.take_append_of_le_length few, ← List.map_take, if_neg all, if_neg all]
    exact entriesOf_events _

end Report

/-! ## A batch on the tables, twice and around the end -/

section

variable (floats : FloatText) (parser : JsonParser)

def persisted (clock : Clock) (requestId : Uuid) (batch : TraceTelemetryBatch) (tables : TraceTables) : TraceTables :=
  (persistBatch floats parser clock requestId batch ⟨tables, none⟩).2.tables

def TraceTables.summariesOf (tables : TraceTables) (id : Uuid) : Option (Option Value × Option Value) :=
  (tables.spanOf id).map fun span => (span.inputSummary, span.outputSummary)

/-- A batch settles when persisting it twice does what persisting it once does, timestamps aside, and when it leaves the
same summaries before and after the end of the root, its own where it carries any. -/
structure Settles (first second : Clock) (requestId rootId : Uuid) (batch : TraceTelemetryBatch)
    (complete : TraceTables → TraceTables) (tables : TraceTables) : Prop where
  twice : ∀ id, TraceView.SameSpan
    ((persisted floats parser second requestId batch (persisted floats parser first requestId batch tables)).spanOf id)
    ((persisted floats parser first requestId batch tables).spanOf id)
  commutes : (complete (persisted floats parser first requestId batch tables)).summariesOf rootId =
    (persisted floats parser first requestId batch (complete tables)).summariesOf rootId
  input : ∀ summary ∈ batch.rootInputSummary,
    ((complete (persisted floats parser first requestId batch tables)).summariesOf rootId).bind Prod.fst = some summary.value
  output : ∀ summary ∈ batch.rootOutputSummary,
    ((complete (persisted floats parser first requestId batch tables)).summariesOf rootId).bind Prod.snd = some summary.value

end

open Report in
/-- The columns that a batch sets, up to the first event that is refused. -/
def batchEntries (requestId : Uuid) (batch : TraceTelemetryBatch) (target : RuntimeTraceTarget)
    (known : Uuid → Option SpanShape) : RootEntries :=
  entriesOf ((batchReports requestId batch).take ((fitting target known (batchReports requestId batch)).length + 1))

open Report in
/-- The last observation of each id copies the same identity from the trace as it is and as the batch leaves it. -/
def SameIdentities (requestId : Uuid) (batch : TraceTelemetryBatch) (target : RuntimeTraceTarget) (known : Uuid → Option SpanShape) :
    Prop :=
  ∀ id, lastObservation id target (fitting target known (batchReports requestId batch)) =
    lastObservation id ((batchEntries requestId batch target known).seen target)
      (fitting target known (batchReports requestId batch))

open Report in
/-- No event is refused, because a span has its id and another shape. -/
def AllFit (requestId : Uuid) (batch : TraceTelemetryBatch) (target : RuntimeTraceTarget) (known : Uuid → Option SpanShape) :
    Prop :=
  batch.events.length ≤ (fitting target known (batchReports requestId batch)).length

variable {floats : FloatText} {parser : JsonParser} {requestId : Uuid} {batch : TraceTelemetryBatch} {tables : TraceTables}

theorem shows_persisted (clock : Clock)
    (valid : validateTraceTelemetryBatch floats parser batch = .ok ()) (shows : view.Shows tables requestId) :
    (TraceView.run clock (batchReports requestId batch) view).2.Shows (persisted floats parser clock requestId batch tables)
      requestId := by
  obtain ⟨outcome, next, isOutcome, after, _⟩ := TraceView.simulates_persistBatch shows clock valid
  rw [persisted, isOutcome]
  exact after

section

variable (first second completed : Clock) (status : String) (durationMs : ℕ)
  (outputSummary : Option Value) (error : Option String)

theorem persisted_twice_iff (valid : validateTraceTelemetryBatch floats parser batch = .ok ())
    (shows : view.Shows tables requestId) : (∀ id, TraceView.SameSpan
        ((persisted floats parser second requestId batch (persisted floats parser first requestId batch tables)).spanOf id)
        ((persisted floats parser first requestId batch tables).spanOf id)) ↔
      SameIdentities requestId batch view.target view.shapes := by
  have topmost : view.root.parentSpanId = none := shows.topmost.2
  have once := shows_persisted first valid shows
  have twice := shows_persisted second valid once
  have leaves : view.Leaves first (batchReports requestId batch)
      (TraceView.run first (batchReports requestId batch) view).2 := TraceView.run_leaves _ topmost
  simp only [once.spans, twice.spans]
  rw [TraceView.spans_twice_iff topmost, leaves.target]
  rfl

theorem shows_complete (shows : view.Shows tables requestId) :
    (view.complete (TraceView.ended completed status durationMs outputSummary error)).Shows
      (tables.completeTraceSpan completed view.root.id status durationMs outputSummary error) requestId :=
  shows.updateSpan (TraceView.ended completed status durationMs outputSummary error) (fun _ => rfl) fun _ => rfl

theorem summariesOf_root (shows : view.Shows tables requestId) :
    tables.summariesOf view.root.id = some (view.root.inputSummary, view.root.outputSummary) := by
  rw [TraceTables.summariesOf, shows.spans, view.spanOf_root, Option.map_some]

theorem summaries_complete_persisted (valid : validateTraceTelemetryBatch floats parser batch = .ok ())
    (shows : view.Shows tables requestId) :
    ((persisted floats parser first requestId batch tables).completeTraceSpan completed view.root.id status durationMs
        outputSummary error).summariesOf view.root.id =
      some
        ((TraceView.ended completed status durationMs outputSummary error
            ((batchEntries requestId batch view.target view.shapes).apply view.root)).inputSummary,
          (TraceView.ended completed status durationMs outputSummary error
            ((batchEntries requestId batch view.target view.shapes).apply view.root)).outputSummary) := by
  have leaves : view.Leaves first (batchReports requestId batch)
      (TraceView.run first (batchReports requestId batch) view).2 := TraceView.run_leaves _ shows.topmost.2
  have after := summariesOf_root (shows_complete completed status durationMs outputSummary error
    (shows_persisted first valid shows))
  rw [TraceView.complete, leaves.root] at after
  exact after

theorem summaries_persisted_complete (valid : validateTraceTelemetryBatch floats parser batch = .ok ())
    (shows : view.Shows tables requestId) : (persisted floats parser first requestId batch
        (tables.completeTraceSpan completed view.root.id status durationMs outputSummary error)).summariesOf view.root.id =
      some
        (((batchEntries requestId batch view.target view.shapes).apply
            (TraceView.ended completed status durationMs outputSummary error view.root)).inputSummary,
          ((batchEntries requestId batch view.target view.shapes).apply
            (TraceView.ended completed status durationMs outputSummary error view.root)).outputSummary) := by
  have after := summariesOf_root (shows_persisted first valid
    (shows_complete completed status durationMs outputSummary error shows))
  rw [TraceView.root_complete completed status durationMs outputSummary error shows.topmost.2] at after
  exact after

theorem carried_iff (requestId : Uuid) (batch : TraceTelemetryBatch) (target : RuntimeTraceTarget)
    (known : Uuid → Option SpanShape) (root : TraceSpan) : ((∀ summary ∈ batch.rootInputSummary,
        ((batchEntries requestId batch target known).apply root).inputSummary = some summary.value) ∧
      ∀ summary ∈ batch.rootOutputSummary,
        ((batchEntries requestId batch target known).apply root).outputSummary = some summary.value) ↔
      AllFit requestId batch target known ∨ (∀ summary ∈ batch.rootInputSummary, root.inputSummary = some summary.value) ∧
        ∀ summary ∈ batch.rootOutputSummary, root.outputSummary = some summary.value := by
  obtain ⟨isInput, isOutput⟩ := Report.entriesOf_batch requestId batch
    (Report.fitting target known (batchReports requestId batch)).length
  by_cases all : AllFit requestId batch target known
  · rw [if_pos (by exact all)] at isInput isOutput
    simp only [all, true_or, iff_true, batchEntries, RootEntries.apply, isInput, isOutput, Option.mem_def]
    constructor <;> intro summary isSummary <;> rw [isSummary] <;> rfl
  · rw [if_neg (by exact all)] at isInput isOutput
    simp only [all, false_or, batchEntries, RootEntries.apply, isInput, isOutput, Option.map_none, Option.none_or]

theorem settles_iff (valid : validateTraceTelemetryBatch floats parser batch = .ok ()) (shows : view.Shows tables requestId) :
    Settles floats parser first second requestId view.root.id batch
        (fun tables => tables.completeTraceSpan completed view.root.id status durationMs outputSummary error) tables ↔
      SameIdentities requestId batch view.target view.shapes ∧
        (AllFit requestId batch view.target view.shapes ∨
          (∀ summary ∈ batch.rootInputSummary, view.root.inputSummary = some summary.value) ∧
            ∀ summary ∈ batch.rootOutputSummary,
              (TraceView.ended completed status durationMs outputSummary error view.root).outputSummary =
                some summary.value) := by
  obtain ⟨sameInput, sameOutput⟩ := TraceView.summaries_ended completed status durationMs outputSummary error
    (batchEntries requestId batch view.target view.shapes) view.root
  have after := summaries_complete_persisted first completed status durationMs outputSummary error valid shows
  have before := summaries_persisted_complete first completed status durationMs outputSummary error valid shows
  rw [sameInput, sameOutput] at after
  have carried := carried_iff requestId batch view.target view.shapes
    (TraceView.ended completed status durationMs outputSummary error view.root)
  rw [← persisted_twice_iff first second valid shows]
  constructor
  · intro settles
    refine ⟨settles.twice, carried.mp ⟨?_, ?_⟩⟩
    · intro summary isSummary
      have isInput := settles.input summary isSummary
      rwa [after] at isInput
    · intro summary isSummary
      have isOutput := settles.output summary isSummary
      rwa [after] at isOutput
  · intro condition
    obtain ⟨inputs, outputs⟩ := carried.mpr condition.2
    constructor
    case twice => exact condition.1
    case commutes => rw [after, before]
    case input =>
      intro summary isSummary
      rw [after]
      exact inputs summary isSummary
    case output =>
      intro summary isSummary
      rw [after]
      exact outputs summary isSummary

end

/-- A valid batch settles if and only if no identity that its observations copy depends on whether the batch was
persisted before, and its summaries, if it carries any, are stored, because all its events fit or because they are
there already. -/
theorem telemetry_settles_iff (trace : EndpointTrace) (root : TraceSpan) (target : RuntimeTraceTarget)
    (first second completed : Clock) (status : String) (durationMs : ℕ) (outputSummary : Option Value)
    (error : Option String) (valid : validateTraceTelemetryBatch floats parser batch = .ok ())
    (isTrace : tables.traceOf requestId = some trace) (isRoot : tables.rootId trace.id = some root.id)
    (isStored : tables.spanOf root.id = some root) (isTarget : tables.getRuntimeTraceTarget requestId = some target) :
    Settles floats parser first second requestId root.id batch
        (fun tables => tables.completeTraceSpan completed root.id status durationMs outputSummary error) tables ↔
      SameIdentities requestId batch target (fun id => (tables.spanOf id).map TraceSpan.shape) ∧
        (AllFit requestId batch target (fun id => (tables.spanOf id).map TraceSpan.shape) ∨
          (∀ summary ∈ batch.rootInputSummary, root.inputSummary = some summary.value) ∧
            ∀ summary ∈ batch.rootOutputSummary,
              (if TraceTables.outputIsCanonical root.attributes then root.outputSummary
                else outputSummary.map redactTraceValue) = some summary.value) := by
  let view : TraceView := ⟨trace, root, tables.spanOf⟩
  have spans : ∀ id, tables.spanOf id = view.spanOf id := by
    intro id
    rw [TraceView.spanOf]
    split
    next same => rw [same, isStored]
    next => rfl
  have shows : view.Shows tables requestId := ⟨isTrace, isRoot, spans⟩
  obtain rfl : view.target = target := Option.some.inj (shows.target.symm.trans isTarget)
  have known : (fun id => (tables.spanOf id).map TraceSpan.shape) = view.shapes := by
    funext id
    rw [spans, TraceView.shapes]
  rw [known]
  exact settles_iff first second completed status durationMs outputSummary error valid shows

/-! ### An observation before the identity -/

def quietRequest : Uuid := ⟨"0190f2c4-7b1e-7c3a-9d52-1f6a0e8b4e0d", by decide⟩

def quietTrace : EndpointTrace where
  id := quietRequest
  requestId := quietRequest
  endpointId := none
  projectId := some quietRequest
  gatewaySessionId := none
  profileId := none
  profileVersionId := none
  operation := "runtime.invoke"
  providerKey := none
  capabilityKind := none
  selectionKey := none
  status := "pending"
  latencyMs := some 0
  request := .null
  response := none
  error := none
  createdAt := .now townClock
  completedAt := none

def quietRoot : TraceSpan :=
  NewTraceSpan.row
    { traceId := quietRequest
      parentSpanId := none
      name := "runtime.invoke"
      kind := "embedded_runtime"
      observationType := .generation
      providerKey := none
      capabilityKind := none
      model := none
      modelParameters := none
      inputSummary := none
      attributes := .emptyObject }
    townClock quietRequest

def quietTables : TraceTables := { endpointTraces := .singleton quietTrace, traceSpans := .singleton quietRoot }

def quietDelivery : DeliveryTelemetry where
  observationId := ⟨"0190f2c4-7b1e-7c3a-9d52-1f6a0e8b4e0e", by decide⟩
  status := .delivered
  startOffsetMs := 0
  endOffsetMs := 1
  elapsedMs := 1
  error := none

def quietBatch (events : List TraceTelemetry) : TraceTelemetryBatch where
  events := events
  droppedEvents := 0
  rootInputSummary := none
  rootOutputSummary := none

/-- A batch that settles: its observation comes after the identity. -/
theorem telemetry_settles_started :
    Settles (fun _ => "0.5") emptyObjectParser townClock townClock quietRequest quietRoot.id
      (quietBatch [.invocationStarted "local" "chat" none, .delivery quietDelivery])
      (fun tables => tables.completeTraceSpan townClock quietRoot.id "completed" 1 none none) quietTables := by
  apply (telemetry_settles_iff quietTrace quietRoot _ townClock townClock townClock "completed" 1 none none
    (by decide +kernel) (by decide +kernel) (by decide +kernel) (by decide +kernel) rfl).mpr
  constructor
  · intro id
    rfl
  · left
    rw [AllFit]
    decide +kernel

/-- An observation that comes before the identity has it only when the batch is persisted again. -/
theorem identity_after_observation : validateTraceTelemetryBatch (fun _ => "0.5") emptyObjectParser
        (quietBatch [.delivery quietDelivery, .invocationStarted "local" "chat" none]) = .ok () ∧
      ¬Settles (fun _ => "0.5") emptyObjectParser townClock townClock quietRequest quietRoot.id
        (quietBatch [.delivery quietDelivery, .invocationStarted "local" "chat" none])
        (fun tables => tables.completeTraceSpan townClock quietRoot.id "completed" 1 none none) quietTables := by
  refine ⟨by decide +kernel, ?_⟩
  intro settles
  exact absurd (settles.twice quietDelivery.observationId) (by decide +kernel)

end Vifu.Server
