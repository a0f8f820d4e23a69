import Vifu.Gateway.Checks
import Vifu.Gateway.Trace.Texts

/-!
# Canonical trace summaries

`canonical_trace_io_summary` redacts a value and replaces it by its shape where it is still too
large.  The receiver recomputes the summary and refuses one that changes.  The module decides for
which values the two agree.
-/

namespace Vifu.Gateway

open Foundation
open Vifu.Runtime hiding validateIdentifier

structure TraceIoSummary where
  value : Value
  truncated : Bool
  deriving DecidableEq

mutual

def traceIoSummaryRequiresTruncation : Value → Bool
  | .object fields =>
    decide (maxTraceIoItems ≤ fields.length) ||
      (getField "truncated" fields).bind Value.asBool == some true || fieldsRequireTruncation fields
  | .array values => decide (maxTraceIoItems ≤ values.length) || itemsRequireTruncation values
  | .string text =>
    decide (maxTraceIoStringChars ≤ text.length) || canonicalTracePlaceholder text ||
      decide (" chars total>".toList <:+: text.toList)
  | .null | .bool _ | .number _ => false

def itemsRequireTruncation : List Value → Bool
  | [] => false
  | value :: values => traceIoSummaryRequiresTruncation value || itemsRequireTruncation values

def fieldsRequireTruncation : List (String × Value) → Bool
  | [] => false
  | (_, value) :: fields => traceIoSummaryRequiresTruncation value || fieldsRequireTruncation fields

end

def TraceIoSummary.effectiveTruncated (summary : TraceIoSummary) : Bool :=
  summary.truncated || traceIoSummaryRequiresTruncation summary.value

/-- What stands for a value whose redacted form is still too large. -/
def shapeSummary (value : Value) : Value :=
  .object [("summary", .string (traceValueShape value)), ("truncated", .bool true)]

/-- The summary that `canonical_trace_io_summary` gives.  Writing a `Value` does not fail. -/
def canonicalTraceIoSummary (floats : FloatText) (parser : JsonParser) (value : Value) : TraceIoSummary :=
  let redacted := redactTraceIoValue parser 0 none value
  if maxTraceIoSummaryBytes < redacted.1.encodedSize floats then ⟨shapeSummary value, true⟩
  else ⟨redacted.1, redacted.2⟩

def validateTraceIoSummary (floats : FloatText) (parser : JsonParser) (name : String) :
    Option TraceIoSummary → Except String Unit
  | none => .ok ()
  | some summary => do
    validateJson floats name summary.value maxTraceIoSummaryBytes
    ensure ((canonicalTraceIoSummary floats parser summary.value).value = summary.value)
      ("trace " ++ name ++ " is not canonical")
    ensure (summary.effectiveTruncated = summary.truncated) ("trace " ++ name ++ " under-reports truncation")

def validateTraceIoSummaries (floats : FloatText) (parser : JsonParser)
    (rootInputSummary rootOutputSummary : Option TraceIoSummary) : Except String Unit := do
  validateTraceIoSummary floats parser "root input summary" rootInputSummary
  validateTraceIoSummary floats parser "root output summary" rootOutputSummary

/-- The mark for further fields is not the last field, and so is cut off itself when the redacted
object is redacted again. -/
def MisplacesMark (fields : List (String × Value)) : Prop :=
  maxTraceIoItems < fields.length ∧ (∀ field ∈ fields.take maxTraceIoItems, field.1 ≠ "…") ∧
    ∃ field ∈ fields.take maxTraceIoItems, "…" < field.1

/-- A text that passes the detectors and is cut, after which it is recognised as sensitive. -/
def CutExposes (keyHint : Option String) (text : String) : Prop :=
  (canonicalTracePlaceholder text = false ∧ traceSensitiveValueString text = false ∧
    isMedia keyHint text = false) ∧
    maxTraceIoStringChars < text.length ∧ traceSensitiveValueString (cutText text) = true

/-- Redacting a second time changes nothing at this part. -/
def Settles (parser : JsonParser) (depth : ℕ) (keyHint : Option String) : Value → Prop
  | .object fields => omitted depth keyHint (.object fields) = true ∨ isBinary fields = true ∨ ¬MisplacesMark fields
  | .string text => (toolCallArguments parser keyHint text).isSome = true ∨ ¬CutExposes keyHint text
  | .null | .bool _ | .number _ | .array _ => True

/-- Redaction replaces or cuts something at this part. -/
def Reduces (parser : JsonParser) (depth : ℕ) (keyHint : Option String) : Value → Prop
  | .object fields =>
    omitted depth keyHint (.object fields) = true ∨ isBinary fields = true ∨
      maxTraceIoItems ≤ fields.length ∨ ∃ field ∈ fields, traceSensitiveKey field.1 = true
  | .array values => omitted depth keyHint (.array values) = true ∨ maxTraceIoItems ≤ values.length
  | .string text =>
    toolCallArguments parser keyHint text = none ∧
      (canonicalTracePlaceholder text = true ∨ traceSensitiveValueString text = true ∨
        isMedia keyHint text = true ∨ maxTraceIoStringChars ≤ text.length)
  | .null | .bool _ | .number _ => False

/-- The part looks as if it had been cut. -/
def Marks (parser : JsonParser) (keyHint : Option String) : Value → Prop
  | .object fields => ("truncated", .bool true) ∈ fields
  | .string text => toolCallArguments parser keyHint text = none ∧ " chars total>".toList <:+: text.toList
  | .null | .bool _ | .number _ | .array _ => False

/-! ## Redacting twice -/

variable {fields : List (String × Value)} {value : Value}

section

variable {parser : JsonParser} {depth : ℕ} {keyHint : Option String} {values : List Value} {text : String}

def FieldSettles (parser : JsonParser) (depth : ℕ) (field : String × Value) : Prop :=
  (redactField parser depth (field.1, (redactField parser depth field).1)).1 = (redactField parser depth field).1

theorem redactField_mark (lawful : parser.Lawful) :
    redactField parser depth ("…", .string "<more fields>") = (.string "<more fields>", true) := by
  have harmless : traceSensitiveKey "…" = false := by decide
  simp [redactField, harmless, redact_more_text lawful]

theorem redactFields_again :
    redactFields parser depth (redactFields parser depth fields) = redactFields parser depth fields ↔
      ∀ field ∈ fields, FieldSettles parser depth field := by
  rw [redactFields, redactFields, List.map_map]
  simp [FieldSettles]

@[simp] theorem redactFields_length : (redactFields parser depth fields).length = fields.length := by
  simp [redactFields]

theorem sorted_redactFields (sorted : Sorted fields) : Sorted (redactFields parser depth fields) := by
  rw [Sorted, redactFields, List.pairwise_map]
  exact sorted

theorem mem_redactFields {field : String × Value} : field ∈ redactFields parser depth fields ↔
      ∃ source ∈ fields, (source.1, (redactField parser depth source).1) = field := by
  rw [redactFields, List.mem_map]

theorem outputFields_again_replaced (lawful : parser.Lawful)
    (sorted : Sorted fields) (many : maxTraceIoItems < fields.length)
    (present : ∃ field ∈ fields.take maxTraceIoItems, field.1 = "…") :
    outputFields parser depth (outputFields parser depth fields) = outputFields parser depth fields ↔
      ∀ field ∈ keptFields fields, FieldSettles parser depth field := by
  obtain ⟨marked, mem, isMark⟩ := present
  have output : outputFields parser depth fields = (fields.take maxTraceIoItems).map fun field =>
      if field.1 = "…" then ("…", .string "<more fields>")
      else (field.1, (redactField parser depth field).1) := by
    rw [outputFields, if_pos many, insertField_present (sorted_redactFields (sorted.sublist (List.take_sublist _ _)))
      ⟨_, mem_redactFields.mpr ⟨marked, mem, rfl⟩, isMark⟩, redactFields, List.map_map]
    rfl
  have few : ¬maxTraceIoItems < (outputFields parser depth fields).length := by
    simp [output]
  rw [outputFields, if_neg few, output, redactFields, List.map_map, List.map_inj_left]
  simp only [keptFields, List.mem_filter, not_le.mpr many, decide_false, Bool.false_or, bne_iff_ne, and_imp]
  apply forall₂_congr
  intro field _
  by_cases same : field.1 = "…"
  · simp [same, redactField_mark lawful]
  · simp [same, FieldSettles]

theorem outputFields_again_appended (many : maxTraceIoItems < fields.length)
    (below : ∀ field ∈ fields.take maxTraceIoItems, field.1 < "…") :
    outputFields parser depth (outputFields parser depth fields) = outputFields parser depth fields ↔
      ∀ field ∈ keptFields fields, FieldSettles parser depth field := by
  have shown : (fields.take maxTraceIoItems).length = maxTraceIoItems := List.length_take_of_le many.le
  have belowOnce : ∀ field ∈ redactFields parser depth (fields.take maxTraceIoItems), field.1 < "…" := by
    intro field mem
    obtain ⟨source, isSource, rfl⟩ := mem_redactFields.mp mem
    exact below source isSource
  have belowTwice : ∀ field ∈ redactFields parser depth (redactFields parser depth (fields.take maxTraceIoItems)),
      field.1 < "…" := by
    intro field mem
    obtain ⟨source, isSource, rfl⟩ := mem_redactFields.mp mem
    exact belowOnce source isSource
  have output : outputFields parser depth fields =
      redactFields parser depth (fields.take maxTraceIoItems) ++ [("…", .string "<more fields>")] := by
    rw [outputFields, if_pos many, insertField_last belowOnce]
  have firstFields : (outputFields parser depth fields).take maxTraceIoItems =
      redactFields parser depth (fields.take maxTraceIoItems) := by
    rw [output, List.take_append_of_le_length (by simp [shown]), List.take_of_length_le (by simp [shown])]
  have more : maxTraceIoItems < (outputFields parser depth fields).length := by
    simp only [output, List.length_append, redactFields_length, shown, List.length_singleton]
    omega
  have kept : keptFields fields = fields.take maxTraceIoItems := by
    apply List.filter_eq_self.mpr
    intro field mem
    simp [(below field mem).ne]
  rw [outputFields, if_pos more, firstFields, insertField_last belowTwice, output, List.append_left_inj,
    redactFields_again, kept]

theorem outputFields_misplaced (sorted : Sorted fields) (misplaced : MisplacesMark fields) :
    outputFields parser depth (outputFields parser depth fields) ≠ outputFields parser depth fields := by
  obtain ⟨many, absent, above, mem, isAbove⟩ := misplaced
  let shown := redactFields parser depth (fields.take maxTraceIoItems)
  have shownLength : shown.length = maxTraceIoItems := by
    simp [shown, List.length_take_of_le many.le]
  have output : outputFields parser depth fields = insertField "…" (.string "<more fields>") shown := by
    rw [outputFields, if_pos many]
  have outputSorted : Sorted (outputFields parser depth fields) := by
    rw [output]
    exact sorted_insertField (sorted_redactFields (sorted.sublist (List.take_sublist _ _)))
  have outputLength : (outputFields parser depth fields).length = maxTraceIoItems + 1 := by
    rw [output, insertField_absent_length, shownLength]
    intro field isShown
    obtain ⟨source, isSource, rfl⟩ := mem_redactFields.mp isShown
    exact absent source isSource
  -- One field is left over after the first ones; it is not the mark, since a key is above it.
  have markFirst : ("…", .string "<more fields>") ∈ (outputFields parser depth fields).take maxTraceIoItems := by
    by_contra notFirst
    have split := List.take_append_drop maxTraceIoItems (outputFields parser depth fields)
    obtain ⟨last, isLast⟩ := List.length_eq_one_iff.mp
      (show ((outputFields parser depth fields).drop maxTraceIoItems).length = 1 by simp [outputLength])
    have isMark : ("…", .string "<more fields>") = last := by
      have inOutput : ("…", .string "<more fields>") ∈ outputFields parser depth fields := by
        rw [output]
        exact mem_insertField_self
      rw [← split, List.mem_append, isLast, List.mem_singleton] at inOutput
      exact inOutput.resolve_left notFirst
    have aboveShown : (above.1, (redactField parser depth above).1) ∈ outputFields parser depth fields := by
      rw [output]
      exact mem_insertField_of_ne (mem_redactFields.mpr ⟨above, mem, rfl⟩) isAbove.ne'
    rw [← split, List.mem_append, isLast, List.mem_singleton, ← isMark] at aboveShown
    rw [Sorted, ← split, List.pairwise_append] at outputSorted
    cases aboveShown with
    | inl isFirst =>
      have isBelow := outputSorted.2.2 _ isFirst last (by simp [isLast])
      rw [← isMark] at isBelow
      exact lt_asymm isAbove isBelow
    | inr isLastField => exact isAbove.ne' (congrArg Prod.fst isLastField)
  have again : (outputFields parser depth (outputFields parser depth fields)).length = maxTraceIoItems := by
    rw [outputFields, if_pos (by omega), insertField_present
      (sorted_redactFields (outputSorted.sublist (List.take_sublist _ _)))
      ⟨_, mem_redactFields.mpr ⟨_, markFirst, rfl⟩, rfl⟩, List.length_map, redactFields_length,
      List.length_take_of_le (by omega)]
  intro same
  rw [same] at again
  omega

theorem outputFields_again (lawful : parser.Lawful) (sorted : Sorted fields) :
    outputFields parser depth (outputFields parser depth fields) = outputFields parser depth fields ↔
      ¬MisplacesMark fields ∧ ∀ field ∈ keptFields fields, FieldSettles parser depth field := by
  by_cases many : maxTraceIoItems < fields.length
  · by_cases present : ∃ field ∈ fields.take maxTraceIoItems, field.1 = "…"
    · have placed : ¬MisplacesMark fields := by
        intro misplaced
        obtain ⟨field, mem, isMark⟩ := present
        exact misplaced.2.1 field mem isMark
      simp only [outputFields_again_replaced lawful sorted many present, placed, not_false_eq_true, true_and]
    · simp only [not_exists, not_and] at present
      by_cases misplaced : MisplacesMark fields
      · simp [misplaced, outputFields_misplaced sorted misplaced]
      · have below : ∀ field ∈ fields.take maxTraceIoItems, field.1 < "…" := by
          intro field mem
          apply lt_of_le_of_ne _ (present field mem)
          intro isAbove
          exact misplaced ⟨many, present, field, mem, isAbove⟩
        simp [misplaced, outputFields_again_appended many below]
  · have placed : ¬MisplacesMark fields := fun misplaced => many misplaced.1
    have kept : keptFields fields = fields := by
      rw [keptFields]
      simp [not_lt.mp many]
    rw [outputFields, outputFields, if_neg many, if_neg (by simpa using many), redactFields_again, kept]
    simp [placed]

theorem isBinary_outputFields (sorted : Sorted fields)
    (plain : ¬isBinary fields = true) : ¬isBinary (outputFields parser depth fields) = true := by
  have nulls : ∀ field ∈ fields, field.1 = "_vifuBinary" → field.2 = .null := by
    rintro ⟨key, value⟩ mem rfl
    rw [isBinary, (getField_eq_some sorted).mpr mem] at plain
    simp only [Option.any_some, Bool.or_eq_true, not_or, bne_iff_ne, not_not] at plain
    exact plain.2
  have harmless : traceSensitiveKey "_vifuBinary" = false := by decide
  have outputNulls : ∀ field ∈ redactFields parser depth fields, field.1 = "_vifuBinary" → field.2 = .null := by
    intro field mem isKey
    obtain ⟨source, isSource, rfl⟩ := mem_redactFields.mp mem
    have same : source.1 = "_vifuBinary" := isKey
    simp [redactField, same, harmless, nulls source isSource same]
  have subset : ∀ field ∈ outputFields parser depth fields,
      field.1 = "…" ∨ field ∈ redactFields parser depth fields := by
    intro field mem
    rw [outputFields] at mem
    split at mem
    · cases mem_insertField mem with
      | inl isMark => simp [isMark]
      | inr isShown =>
        obtain ⟨source, isSource, rfl⟩ := mem_redactFields.mp isShown
        exact Or.inr (mem_redactFields.mpr ⟨source, List.mem_of_mem_take isSource, rfl⟩)
    · exact Or.inr mem
  rw [isBinary, Option.any_eq_true]
  intro found
  obtain ⟨marker, isMarker, marks⟩ := found
  have mem := mem_of_getField isMarker
  have isNull : marker = .null := by
    cases subset _ mem with
    | inl isMark => exact absurd (show "_vifuBinary" = "…" from isMark) (by decide)
    | inr isShown => exact outputNulls _ isShown rfl
  simp [isNull, Value.asBool] at marks

theorem redactText_again (lawful : parser.Lawful) (small : text.utf8ByteSize ≤ isizeMax)
    (reads : toolCallArguments parser keyHint text = none) :
    (redactTraceIoValue parser depth keyHint (redactText keyHint text).1).1 = (redactText keyHint text).1 ↔
      ¬CutExposes keyHint text := by
  by_cases placeholder : canonicalTracePlaceholder text = true
  · simp [redactText, CutExposes, placeholder, redact_text reads]
  by_cases sensitive : traceSensitiveValueString text = true
  · simp [redactText, CutExposes, placeholder, sensitive, redact_sensitive_text lawful]
  by_cases media : isMedia keyHint text = true
  · simp only [redactText, if_neg placeholder, if_neg sensitive, if_pos media, redact_media_text lawful, true_iff]
    simp [CutExposes, media]
  rw [Bool.not_eq_true] at placeholder sensitive media
  by_cases long : maxTraceIoStringChars < text.length
  · have cut : redactText keyHint text = (.string (cutText text), true) := by
      simp [redactText, placeholder, sensitive, media, long.le, long.ne']
    -- The cut text is kept the second time unless it is recognised now.
    rw [cut, redact_text (toolCallArguments_none (fromStr_cutText lawful)), redactText,
      placeholder_cutText, isMedia_cutText media, cutText_length small long]
    by_cases exposed : traceSensitiveValueString (cutText text) = true
    · have different : "[REDACTED sensitive value]" ≠ cutText text := by
        intro same
        have length := cutText_length small long
        rw [← same] at length
        revert length
        decide
      simp [CutExposes, placeholder, sensitive, media, long, exposed, different]
    · simp [CutExposes, exposed]
  · have kept : (redactText keyHint text).1 = .string text := by
      simp only [redactText, placeholder, sensitive, media]
      grind
    rw [kept, redact_text reads, kept]
    simp [CutExposes, long]

/-- Redaction gives the same value again exactly where every part it gets to settles. -/
theorem redact_again (lawful : parser.Lawful) (value : Value) (wellFormed : value.WellFormed) :
    (redactTraceIoValue parser depth keyHint (redactTraceIoValue parser depth keyHint value).1).1 =
        (redactTraceIoValue parser depth keyHint value).1 ↔
      ∀ partDepth partHint part, Reached parser depth keyHint value partDepth partHint part →
        Settles parser partDepth partHint part := by
  induction depth, keyHint, value using redactTraceIoValue.induct parser with
  | case1 depth keyHint value isOmitted =>
    rw [redact_omitted isOmitted, reached_omitted isOmitted]
    cases value <;> simp_all [Settles, omitted, Value.isContainer]
  | case2 depth keyHint fields shown binary =>
    rw [redact_binary shown binary, redact_binary_text lawful, reached_binary binary]
    simp [Settles, binary]
  | case3 depth keyHint fields shown plain ih =>
    rw [Value.wellFormed_object] at wellFormed
    have shownAgain : ¬omitted depth keyHint (.object (outputFields parser depth fields)) = true := shown
    rw [redact_object shown plain, reached_object shown plain]
    rw [redact_object shownAgain (isBinary_outputFields wellFormed.1 plain), Value.object.injEq, outputFields_again lawful wellFormed.1, Settles]
    simp only [shown, plain, Bool.false_eq_true, false_or]
    apply and_congr_right
    intro _
    apply forall₂_congr
    intro field mem
    have isField : field ∈ fields := List.mem_of_mem_take (List.mem_of_mem_filter mem)
    have again := ih field (wellFormed.2 field isField)
    by_cases sensitive : traceSensitiveKey field.1 = true
    · simp [FieldSettles, redactField, sensitive]
    · simp [FieldSettles, redactField, sensitive, again]
  | case4 depth keyHint values shown ih =>
    rw [Value.wellFormed_array] at wellFormed
    rw [redact_array shown, reached_array shown]
    rw [redact_array (by exact shown), Value.array.injEq, List.take_of_length_le (by simp), List.map_map, List.map_inj_left]
    simp only [Settles, true_and]
    apply forall₂_congr
    intro value mem
    exact ih value (wellFormed value (List.mem_of_mem_take mem))
  | case5 depth keyHint text _ decoded reads ih =>
    have decodedWellFormed := lawful.wellFormed (fromStr_of_toolCallArguments reads)
    rw [redact_arguments reads, ih decodedWellFormed, reached_arguments reads]
    simp [Settles, reads]
  | case6 depth keyHint text _ reads =>
    rw [redact_text reads, redactText_again lawful wellFormed reads, reached_text reads]
    simp [Settles, reads]
  | case7 | case8 | case9 =>
    rw [reached_scalar (by simp [Value.isContainer]) (by simp)]
    simp [Settles]

/-! ## The truncation flag -/

theorem keptFields_small (few : ¬maxTraceIoItems ≤ fields.length) : keptFields fields = fields := by
  rw [not_le] at few
  rw [keptFields]
  simp [few.le]

theorem reduces_object : Reduces parser depth keyHint (.object fields) ↔
    omitted depth keyHint (.object fields) = true ∨ isBinary fields = true ∨
      maxTraceIoItems ≤ fields.length ∨ ∃ field ∈ fields, traceSensitiveKey field.1 = true := Iff.rfl

theorem reduces_array : Reduces parser depth keyHint (.array values) ↔
    omitted depth keyHint (.array values) = true ∨ maxTraceIoItems ≤ values.length := Iff.rfl

theorem redactText_whole (reads : toolCallArguments parser keyHint text = none) :
    (redactText keyHint text).2 = false ↔ ¬Reduces parser depth keyHint (.string text) := by
  simp only [redactText, Reduces, reads, true_and, not_or]
  grind

theorem redact_whole (value : Value) : (redactTraceIoValue parser depth keyHint value).2 = false ↔
      ∀ partDepth partHint part, Reached parser depth keyHint value partDepth partHint part →
        ¬Reduces parser partDepth partHint part := by
  induction depth, keyHint, value using redactTraceIoValue.induct parser with
  | case1 depth keyHint value isOmitted =>
    rw [redact_omitted isOmitted, reached_omitted isOmitted]
    cases value <;> simp_all [Reduces, omitted, Value.isContainer]
  | case2 depth keyHint fields shown binary =>
    rw [redact_binary shown binary, reached_binary binary]
    simp [Reduces, binary]
  | case3 depth keyHint fields shown plain ih =>
    rw [redact_object shown plain, reached_object shown plain]
    simp only [reduces_object, shown, plain, Bool.or_eq_false_iff, decide_eq_false_iff_not, List.any_eq_false,
      Bool.not_eq_true, Bool.false_eq_true, false_or, not_or, not_exists, not_and, and_assoc]
    apply and_congr_right
    intro few
    rw [keptFields_small few, List.take_of_length_le (not_le.mp few).le, ← forall₂_and]
    apply forall₂_congr
    intro field _
    by_cases sensitive : traceSensitiveKey field.1 = true
    · simp [redactField, sensitive]
    · simp [redactField, sensitive, ih field]
  | case4 depth keyHint values shown ih =>
    rw [redact_array shown, reached_array shown]
    simp only [reduces_array, shown, Bool.or_eq_false_iff, decide_eq_false_iff_not, List.any_eq_false,
      Bool.not_eq_true, Bool.false_eq_true, false_or]
    apply and_congr_right
    intro _
    apply forall₂_congr
    intro value _
    exact ih value
  | case5 depth keyHint text _ decoded reads ih =>
    rw [redact_arguments reads, ih, reached_arguments reads]
    simp [Reduces, reads]
  | case6 depth keyHint text _ reads =>
    rw [redact_text reads, redactText_whole reads, reached_text reads]
  | case7 | case8 | case9 =>
    rw [reached_scalar (by simp [Value.isContainer]) (by simp)]
    simp [Reduces]

theorem redact_eq_bool {flag : Bool} :
    (redactTraceIoValue parser depth keyHint value).1 = .bool flag ↔ value = .bool flag := by
  induction depth, keyHint, value using redactTraceIoValue.induct parser with
  | case1 depth keyHint value isOmitted =>
    rw [redact_omitted isOmitted]
    cases value <;> simp_all [omitted, Value.isContainer]
  | case2 depth keyHint fields shown binary => simp [redact_binary shown binary]
  | case3 depth keyHint fields shown plain => simp [redact_object shown plain]
  | case4 depth keyHint values shown => simp [redact_array shown]
  | case5 depth keyHint text _ decoded reads ih =>
    have container := isContainer_of_toolCallArguments reads
    rw [redact_arguments reads]
    cases decoded <;> simp_all [Value.isContainer]
  | case6 depth keyHint text _ reads =>
    rw [redact_text reads, redactText]
    grind
  | case7 | case8 | case9 => simp

theorem fieldsRequireTruncation_false :
    fieldsRequireTruncation fields = false ↔ ∀ field ∈ fields, traceIoSummaryRequiresTruncation field.2 = false := by
  induction fields with
  | nil => simp [fieldsRequireTruncation]
  | cons field fields ih =>
    simp [fieldsRequireTruncation, ih]

theorem itemsRequireTruncation_false :
    itemsRequireTruncation values = false ↔ ∀ value ∈ values, traceIoSummaryRequiresTruncation value = false := by
  induction values with
  | nil => simp [itemsRequireTruncation]
  | cons value values ih => simp [itemsRequireTruncation, ih]

theorem getField_truncated (sorted : Sorted fields) :
    ((getField "truncated" fields).bind Value.asBool == some true) = true ↔ ("truncated", .bool true) ∈ fields := by
  rw [← getField_eq_some sorted, beq_iff_eq, Option.bind_eq_some_iff]
  constructor
  · intro found
    obtain ⟨value, isValue, isTrue⟩ := found
    cases value <;> simp_all [Value.asBool]
  · intro found
    exact ⟨_, found, rfl⟩

theorem requires_redacted (value : Value) (wellFormed : value.WellFormed) (lawful : parser.Lawful)
    (whole : ∀ partDepth partHint part, Reached parser depth keyHint value partDepth partHint part →
      ¬Reduces parser partDepth partHint part) :
    traceIoSummaryRequiresTruncation (redactTraceIoValue parser depth keyHint value).1 = false ↔
      ∀ partDepth partHint part, Reached parser depth keyHint value partDepth partHint part →
        ¬Marks parser partHint part := by
  induction depth, keyHint, value using redactTraceIoValue.induct parser with
  | case1 depth keyHint value isOmitted =>
    rw [reached_omitted isOmitted] at whole
    cases value <;> simp_all [Reduces, omitted, Value.isContainer]
  | case2 depth keyHint fields shown binary =>
    rw [reached_binary binary] at whole
    simp [Reduces, binary] at whole
  | case3 depth keyHint fields shown plain ih =>
    rw [Value.wellFormed_object] at wellFormed
    rw [reached_object shown plain] at whole
    obtain ⟨whole, wholeFields⟩ := whole
    simp only [reduces_object, not_or, not_exists, not_and] at whole
    obtain ⟨-, -, few, harmless⟩ := whole
    rw [keptFields_small few] at wholeFields
    rw [redact_object shown plain, reached_object shown plain, keptFields_small few]
    have output : outputFields parser depth fields = redactFields parser depth fields := by
      rw [outputFields, if_neg (by omega)]
    have sortedOutput : Sorted (redactFields parser depth fields) := sorted_redactFields wellFormed.1
    have marked : ("truncated", .bool true) ∈ redactFields parser depth fields ↔
        ("truncated", .bool true) ∈ fields := by
      rw [mem_redactFields]
      constructor
      · rintro ⟨⟨key, inner⟩, mem, same⟩
        rw [Prod.mk.injEq, redactField, if_neg (harmless _ mem), redact_eq_bool] at same
        rwa [← same.1, ← same.2]
      · intro mem
        refine ⟨_, mem, ?_⟩
        rw [Prod.mk.injEq, redactField, if_neg (harmless _ mem), redact_eq_bool]
        exact ⟨rfl, rfl⟩
    rw [output, traceIoSummaryRequiresTruncation]
    simp only [Bool.or_eq_false_iff, decide_eq_false_iff_not, redactFields_length, few, not_false_eq_true,
      true_and, fieldsRequireTruncation_false]
    rw [Bool.eq_false_iff, Ne, getField_truncated sortedOutput, marked]
    rw [redactFields, List.forall_mem_map]
    apply and_congr Iff.rfl
    apply forall₂_congr
    intro field mem
    rw [redactField, if_neg (harmless field mem)]
    have whole := wholeFields field mem (harmless field mem)
    rw [ih field (wellFormed.2 field mem) whole]
    exact ⟨fun unmarked _ => unmarked, fun unmarked => unmarked (harmless field mem)⟩
  | case4 depth keyHint values shown ih =>
    rw [Value.wellFormed_array] at wellFormed
    rw [reached_array shown] at whole
    obtain ⟨whole, wholeItems⟩ := whole
    simp only [reduces_array, not_or] at whole
    rw [redact_array shown, reached_array shown, traceIoSummaryRequiresTruncation]
    rw [List.take_of_length_le (not_le.mp whole.2).le] at *
    simp only [Bool.or_eq_false_iff, decide_eq_false_iff_not, List.length_map, whole.2, not_false_eq_true,
      true_and, itemsRequireTruncation_false, List.forall_mem_map]
    have unmarked : ¬Marks parser keyHint (.array values) := fun marked => False.elim marked
    simp only [unmarked, not_false_eq_true, true_and]
    apply forall₂_congr
    intro value mem
    exact ih value (wellFormed value mem) (wholeItems value mem)
  | case5 depth keyHint text _ decoded reads ih =>
    rw [reached_arguments reads] at whole
    rw [redact_arguments reads, ih (lawful.wellFormed (fromStr_of_toolCallArguments reads)) whole.2,
      reached_arguments reads]
    simp [Marks, reads]
  | case6 depth keyHint text _ reads =>
    rw [reached_text reads] at whole
    rw [redact_text reads, reached_text reads]
    simp only [Reduces, reads, true_and, not_or, Bool.not_eq_true] at whole
    obtain ⟨noPlaceholder, noSecret, noMedia, short⟩ := whole
    have kept : redactText keyHint text = (.string text, false) := by
      simp only [redactText, noPlaceholder, noSecret, noMedia, short, Bool.false_eq_true, if_false]
    rw [kept, traceIoSummaryRequiresTruncation]
    simp only [Marks, reads, noPlaceholder, short, true_and, decide_false, Bool.false_or, decide_eq_false_iff_not]
  | case7 | case8 | case9 =>
    rw [reached_scalar (by simp [Value.isContainer]) (by simp)]
    simp [Marks, traceIoSummaryRequiresTruncation]

end

/-! ## Acceptance -/

section

variable {floats : FloatText} {parser : JsonParser} {name : String}

theorem traceValueShape_text (value : Value) :
    traceValueShape value ∈ ["null", "boolean", "number", "string", "array", "object"] := by
  cases value <;> simp [traceValueShape]

theorem redact_shapeSummary (value : Value) :
    redactTraceIoValue parser 0 none (shapeSummary value) = (shapeSummary value, false) := by
  have shown : ¬omitted 0 none (shapeSummary value) = true := by simp [omitted, maxTraceIoDepth]
  have plain : ¬isBinary [("summary", Value.string (traceValueShape value)), ("truncated", .bool true)] = true := by
    simp [isBinary, getField, List.lookup_cons]
  have harmless : traceSensitiveKey "summary" = false ∧ traceSensitiveKey "truncated" = false := by decide
  have noArguments : traceToolCallArgumentsKey "summary" = false := by decide
  have kept : ∀ shape ∈ ["null", "boolean", "number", "string", "array", "object"],
      redactText (some "summary") shape = (.string shape, false) := by decide
  rw [shapeSummary, redact_object shown plain]
  simp [outputFields, maxTraceIoItems, redactFields, redactField, harmless,
    redact_text (show toolCallArguments parser (some "summary") (traceValueShape value) = none by
      simp [toolCallArguments, noArguments]), kept _ (traceValueShape_text value)]

theorem encodedSize_shapeSummary (value : Value) : (shapeSummary value).encodedSize floats ≤ maxTraceIoSummaryBytes := by
  have sizes : ∀ shape ∈ ["null", "boolean", "number", "string", "array", "object"],
      (Value.object [("summary", .string shape), ("truncated", .bool true)]).encodedSize floats ≤
        maxTraceIoSummaryBytes := by
    simp only [Value.encodedSize, Value.text, Value.fieldsText]
    decide
  exact sizes _ (traceValueShape_text value)

theorem validateTraceIoSummary_ok {summary : TraceIoSummary} :
    validateTraceIoSummary floats parser name (some summary) = .ok () ↔
      summary.value.encodedSize floats ≤ maxTraceIoSummaryBytes ∧
        (canonicalTraceIoSummary floats parser summary.value).value = summary.value ∧
        summary.effectiveTruncated = summary.truncated := by
  simp only [validateTraceIoSummary, check_bind_ok, validateJson_ok, ensure_ok]

theorem shapeSummary_accepted (name : String) (value : Value) :
    validateTraceIoSummary floats parser name (some ⟨shapeSummary value, true⟩) = .ok () := by
  have small : (shapeSummary value).encodedSize floats ≤ maxTraceIoSummaryBytes := encodedSize_shapeSummary value
  have canonical : (canonicalTraceIoSummary floats parser (shapeSummary value)).value = shapeSummary value := by
    rw [canonicalTraceIoSummary, redact_shapeSummary]
    simp [not_lt.mpr small]
  simp [validateTraceIoSummary_ok, small, canonical, TraceIoSummary.effectiveTruncated]

/-- The redacted form is larger than a summary may be. -/
def Oversized (floats : FloatText) (parser : JsonParser) (value : Value) : Prop :=
  maxTraceIoSummaryBytes < (redactTraceIoValue parser 0 none value).1.encodedSize floats

theorem canonical_value_iff (small : value.encodedSize floats ≤ maxTraceIoSummaryBytes) :
    (canonicalTraceIoSummary floats parser value).value = value ↔
      (redactTraceIoValue parser 0 none value).1 = value := by
  rw [canonicalTraceIoSummary]
  split
  · next large =>
    constructor
    · intro same
      have redacted : redactTraceIoValue parser 0 none (shapeSummary value) = (shapeSummary value, false) :=
        redact_shapeSummary value
      dsimp only at same
      rw [same] at redacted
      rw [redacted]
    · intro same
      rw [same] at large
      omega
  · exact Iff.rfl

/-- The check of a summary passes exactly where the shape has taken the place of the value, or else
every part settles and the flag says of the value what it looks like. -/
theorem summary_accepted_iff (lawful : parser.Lawful) (wellFormed : value.WellFormed) :
    validateTraceIoSummary floats parser name (some (canonicalTraceIoSummary floats parser value)) = .ok () ↔
      Oversized floats parser value ∨
        (∀ depth keyHint part, Reached parser 0 none value depth keyHint part → Settles parser depth keyHint part) ∧
        ((∃ depth keyHint part, Reached parser 0 none value depth keyHint part ∧ Reduces parser depth keyHint part) ∨
          ∀ depth keyHint part, Reached parser 0 none value depth keyHint part → ¬Marks parser keyHint part) := by
  by_cases large : Oversized floats parser value
  · have summary : canonicalTraceIoSummary floats parser value = ⟨shapeSummary value, true⟩ := if_pos large
    simp [summary, shapeSummary_accepted, large]
  · have summary : canonicalTraceIoSummary floats parser value =
        ⟨(redactTraceIoValue parser 0 none value).1, (redactTraceIoValue parser 0 none value).2⟩ := if_neg large
    have small : (redactTraceIoValue parser 0 none value).1.encodedSize floats ≤ maxTraceIoSummaryBytes :=
      not_lt.mp large
    rw [summary, validateTraceIoSummary_ok]
    simp only [small, true_and, large, false_or, canonical_value_iff small,
      redact_again lawful value wellFormed, TraceIoSummary.effectiveTruncated]
    apply and_congr_right
    intro _
    have whole : (redactTraceIoValue parser 0 none value).2 = false ↔ _ := redact_whole value
    by_cases kept : ∀ depth keyHint part, Reached parser 0 none value depth keyHint part →
        ¬Reduces parser depth keyHint part
    · have nothing : ¬∃ depth keyHint part, Reached parser 0 none value depth keyHint part ∧
          Reduces parser depth keyHint part := by
        intro found
        obtain ⟨depth, keyHint, part, reached, reduces⟩ := found
        exact kept depth keyHint part reached reduces
      rw [whole.mpr kept, Bool.false_or, requires_redacted value wellFormed lawful kept]
      simp only [nothing, false_or]
    · have flag : (redactTraceIoValue parser 0 none value).2 = true := by
        rw [← Bool.not_eq_false]
        exact fun down => kept (whole.mp down)
      simp only [not_forall, not_not] at kept
      obtain ⟨depth, keyHint, part, reached, reduces⟩ := kept
      rw [flag]
      exact ⟨fun _ => Or.inl ⟨depth, keyHint, part, reached, reduces⟩, fun _ => rfl⟩

/-- Sent as the summary of the input or of the output, the canonical summary of a value passes the
check of the receiver. -/
def SummaryAccepted (floats : FloatText) (parser : JsonParser) (value : Value) : Prop :=
  validateTraceIoSummaries floats parser (some (canonicalTraceIoSummary floats parser value)) none = .ok () ∧
    validateTraceIoSummaries floats parser none (some (canonicalTraceIoSummary floats parser value)) = .ok ()

instance decidableSummaryAccepted (floats : FloatText) (parser : JsonParser) (value : Value) :
    Decidable (SummaryAccepted floats parser value) :=
  inferInstanceAs (Decidable (_ ∧ _))

/-- Summaries pass the receiver's check exactly where their value is replaced by its shape, or where
every part settles and the value looks cut only if something was replaced or cut. -/
theorem canonical_summary_accepted_iff (floats : FloatText) (parser : JsonParser) (value : Value)
    (lawful : parser.Lawful) (wellFormed : value.WellFormed) : SummaryAccepted floats parser value ↔
      Oversized floats parser value ∨
        (∀ depth keyHint part, Reached parser 0 none value depth keyHint part → Settles parser depth keyHint part) ∧
        ((∃ depth keyHint part, Reached parser 0 none value depth keyHint part ∧ Reduces parser depth keyHint part) ∨
          ∀ depth keyHint part, Reached parser 0 none value depth keyHint part → ¬Marks parser keyHint part) := by
  have absent : ∀ name, validateTraceIoSummary floats parser name none = .ok () := fun _ => rfl
  rw [SummaryAccepted, validateTraceIoSummaries, validateTraceIoSummaries]
  simp only [check_bind_ok, absent, and_true, true_and, summary_accepted_iff lawful wellFormed, and_self]

def emptyObjectParser : JsonParser := ⟨fun text => if text = "{}" then some (.object []) else none⟩

theorem emptyObjectParser_lawful : emptyObjectParser.Lawful := by
  have reads : ∀ {text value}, emptyObjectParser.fromStr text = some value →
      text = "{}" ∧ value = .object [] := by
    intro text value isValue
    simpa [emptyObjectParser, eq_comm] using isValue
  refine ⟨?_, ?_, ?_, ?_⟩
  · intro text value isValue
    simp [(reads isValue).2, Sorted]
  · intro text value isValue
    rw [(reads isValue).1]
    decide
  · intro text value isValue
    rw [(reads isValue).1]
    decide
  · intro text value rest isValue isArray
    rw [(reads isValue).1] at isArray
    simp at isArray

def toolCallValue : Value := .object [("function", .object [("arguments", .string "{}")])]

theorem canonical_summary_accepted_tool_call : emptyObjectParser.Lawful ∧ toolCallValue.WellFormed ∧
      (SummaryAccepted (fun _ => "0.5") emptyObjectParser toolCallValue ↔
        Oversized (fun _ => "0.5") emptyObjectParser toolCallValue ∨
          (∀ depth keyHint part, Reached emptyObjectParser 0 none toolCallValue depth keyHint part →
            Settles emptyObjectParser depth keyHint part) ∧
          ((∃ depth keyHint part, Reached emptyObjectParser 0 none toolCallValue depth keyHint part ∧
              Reduces emptyObjectParser depth keyHint part) ∨
            ∀ depth keyHint part, Reached emptyObjectParser 0 none toolCallValue depth keyHint part →
              ¬Marks emptyObjectParser keyHint part)) ∧
      SummaryAccepted (fun _ => "0.5") emptyObjectParser toolCallValue := by
  have wellFormed : toolCallValue.WellFormed := by
    simp [toolCallValue, Sorted]
    decide
  refine ⟨emptyObjectParser_lawful, wellFormed,
    canonical_summary_accepted_iff _ _ _ emptyObjectParser_lawful wellFormed, by decide +kernel⟩

/-- A value that says of itself that it is truncated is refused. -/
theorem truncated_field_refused :
    ¬SummaryAccepted (fun _ => "0.5") emptyObjectParser (.object [("truncated", .bool true)]) := by
  decide +kernel

end

end Vifu.Gateway
