import Vifu.Gateway.Trace.Canonical

/-!
# What a trace summary shows

A summary should show no value under a sensitive key and no text that the detector of sensitive
texts recognises.  Two kinds of texts get through: one that looks like a placeholder, and one that
is recognised only after it was cut.
-/

namespace Vifu.Gateway

open Foundation Vifu.Runtime

/-! ## Parts of a summary -/

/-- The parts of a value with the keys they stand under; the arguments of a tool call are read. -/
inductive Part (parser : JsonParser) : Option String → Value → Option String → Value → Prop where
  | here {keyHint value} : Part parser keyHint value keyHint value
  | field {keyHint fields field partHint part} (member : field ∈ fields)
      (inside : Part parser (some field.1) field.2 partHint part) :
      Part parser keyHint (.object fields) partHint part
  | item {keyHint values value partHint part} (member : value ∈ values)
      (inside : Part parser keyHint value partHint part) : Part parser keyHint (.array values) partHint part
  | arguments {keyHint text decoded partHint part} (reads : toolCallArguments parser keyHint text = some decoded)
      (inside : Part parser keyHint decoded partHint part) : Part parser keyHint (.string text) partHint part

/-- Sensitive keys hold the redaction marker, and a text is not recognised as sensitive. -/
def Discreet : Value → Prop
  | .object fields => ∀ field ∈ fields, traceSensitiveKey field.1 = true → field.2 = .string "[REDACTED]"
  | .string text => traceSensitiveValueString text = false
  | .null | .bool _ | .number _ | .array _ => True

/-- No part of the value shows anything sensitive. -/
def Redacted (parser : JsonParser) (keyHint : Option String) (value : Value) : Prop :=
  ∀ partHint part, Part parser keyHint value partHint part → Discreet part

/-- Redaction lets a text through that the detector of sensitive texts recognises. -/
def Leaks (parser : JsonParser) (keyHint : Option String) : Value → Prop
  | .string text =>
    toolCallArguments parser keyHint text = none ∧
      (canonicalTracePlaceholder text = true ∧ traceSensitiveValueString text = true ∨ CutExposes keyHint text)
  | .null | .bool _ | .number _ | .array _ | .object _ => False

section

variable {parser : JsonParser} {depth : ℕ} {keyHint : Option String} {fields : List (String × Value)} {text : String}
  {α : Type}

theorem redacted_text (reads : toolCallArguments parser keyHint text = none) :
    Redacted parser keyHint (.string text) ↔ traceSensitiveValueString text = false := by
  constructor
  · intro redacted
    exact redacted _ _ .here
  · intro plain partHint part inside
    cases inside with
    | here => exact plain
    | arguments same => simp [reads] at same

theorem redacted_object : Redacted parser keyHint (.object fields) ↔
      Discreet (.object fields) ∧ ∀ field ∈ fields, Redacted parser (some field.1) field.2 := by
  constructor
  · intro redacted
    exact ⟨redacted _ _ .here, fun field mem _ _ inside => redacted _ _ (.field mem inside)⟩
  · intro parts partHint part inside
    cases inside with
    | here => exact parts.1
    | field mem inside => exact parts.2 _ mem _ _ inside

theorem redacted_array {values : List Value} :
    Redacted parser keyHint (.array values) ↔ ∀ value ∈ values, Redacted parser keyHint value := by
  constructor
  · intro redacted value mem _ _ inside
    exact redacted _ _ (.item mem inside)
  · intro parts partHint part inside
    cases inside with
    | here => trivial
    | item mem inside => exact parts _ mem _ _ inside

theorem redacted_scalar {value : Value} (closed : value.isContainer = false) (noText : ∀ text, value ≠ .string text) :
    Redacted parser keyHint value := by
  intro partHint part inside
  cases inside with
  | here => cases value <;> simp_all [Discreet, Value.isContainer]
  | field => simp [Value.isContainer] at closed
  | item => simp [Value.isContainer] at closed
  | arguments => simp at noText

/-! ## Texts -/

theorem infix_beside_mark {pattern before after : List α} {mark : α} (unmarked : mark ∉ pattern)
    (isInfix : pattern <:+: before ++ mark :: after) : pattern <:+: before ∨ pattern <:+: after := by
  have noHead : ∀ {part : List α}, mark ∉ part → part <+: mark :: after → part = [] := by
    intro part unmarkedPart starts
    cases part with
    | nil => rfl
    | cons head tail =>
      rw [List.cons_prefix_cons] at starts
      simp [starts.1] at unmarkedPart
  rw [List.infix_append_iff] at isInfix
  obtain isBefore | isAfter | ⟨first, second, rfl, ends, starts⟩ := isInfix
  · exact Or.inl isBefore
  · rw [List.infix_cons_iff] at isAfter
    cases isAfter with
    | inl starts => exact Or.inl (noHead unmarked starts ▸ List.nil_infix)
    | inr isAfter => exact Or.inr isAfter
  · rw [List.mem_append, not_or] at unmarked
    rw [noHead unmarked.2 starts, List.append_nil]
    exact Or.inl ends.isInfix

theorem infix_of_separated {pattern before separators after : List α} (separated : separators ≠ [])
    (foreign : ∀ separator ∈ separators, separator ∉ pattern)
    (isInfix : pattern <:+: before ++ (separators ++ after)) : pattern <:+: before ∨ pattern <:+: after := by
  induction separators generalizing before with
  | nil => exact absurd rfl separated
  | cons separator separators ih =>
    rw [List.forall_mem_cons] at foreign
    cases infix_beside_mark foreign.1 isInfix with
    | inl isBefore => exact Or.inl isBefore
    | inr isAfter =>
      by_cases last : separators = []
      · subst last
        exact Or.inr isAfter
      · have isLater : pattern <:+: [] ++ (separators ++ after) := isAfter
        cases ih last foreign.2 isLater with
        | inl isEmpty => exact Or.inl (List.infix_nil.mp isEmpty ▸ List.nil_infix)
        | inr isAfter => exact Or.inr isAfter

theorem trim_isInfix (text : String) : (trim text).toList <:+: text.toList := by
  have front : text.toList.dropWhile isWhitespace <:+ text.toList := List.dropWhile_suffix _
  have back : ((text.toList.dropWhile isWhitespace).reverse.dropWhile isWhitespace).reverse <+:
      text.toList.dropWhile isWhitespace := by
    rw [← List.reverse_suffix, List.reverse_reverse]
    exact List.dropWhile_suffix _
  rw [trim, String.toList_ofList]
  exact back.isInfix.trans front.isInfix

theorem sensitive_infix (sensitive : traceSensitiveValueString text = true) :
    ∃ marker ∈ sensitiveMarkers, marker.toList <:+: text.toList.map Char.toLower := by
  simp only [traceSensitiveValueString, List.any_eq_true, decide_eq_true_eq] at sensitive
  obtain ⟨marker, mem, isInfix⟩ := sensitive
  rw [normalizedText, toAsciiLowercase, String.toList_ofList] at isInfix
  exact ⟨marker, mem, isInfix.trans ((trim_isInfix text).map _)⟩

theorem toLower_of_isDigit {character : Char} (digit : character.isDigit = true) :
    character.toLower = character := by
  have code := digit_code digit
  apply dif_neg
  intro upper
  have above := upper.1
  simp [UInt32.le_iff_toNat_le] at above
  omega

theorem media_not_sensitive (count : ℕ) :
    traceSensitiveValueString ("<media/binary omitted: " ++ toString count ++ " chars>") = false := by
  rw [Bool.eq_false_iff]
  intro sensitive
  obtain ⟨marker, mem, isInfix⟩ := sensitive_infix sensitive
  have digits : (toString count).toList.map Char.toLower = (toString count).toList := by
    conv_rhs => rw [← List.map_id (toString count).toList]
    apply List.map_congr_left
    intro digit isDigit
    exact toLower_of_isDigit (isDigit_of_mem_toString isDigit)
  have noDigits : (sensitiveMarkers.all fun marker => marker.toList.all fun character => !character.isDigit) = true := by
    decide
  simp only [List.all_eq_true, Bool.not_eq_true'] at noDigits
  have some : (toString count).toList ≠ [] := by
    rw [Nat.toString_eq_repr, Nat.toList_repr]
    exact List.length_pos_iff.mp Nat.length_toDigits_pos
  have noSide : ∀ marker ∈ sensitiveMarkers, ¬(marker.toList <:+: "<media/binary omitted: ".toList.map Char.toLower ∨
      marker.toList <:+: " chars>".toList.map Char.toLower) := by decide +kernel
  rw [String.toList_append, String.toList_append, List.map_append, List.map_append, digits,
    List.append_assoc] at isInfix
  apply noSide marker mem
  apply infix_of_separated some _ isInfix
  intro digit isDigit inMarker
  exact Bool.false_ne_true ((noDigits marker mem digit inMarker).symm.trans (isDigit_of_mem_toString isDigit))

theorem fromStr_marker (lawful : parser.Lawful) : parser.fromStr "[REDACTED]" = none := by
  by_contra reads
  obtain ⟨value, reads⟩ := Option.ne_none_iff_exists'.mp reads
  have opened : "[REDACTED]".toList = '[' :: "REDACTED]".toList := by decide
  have items := lawful.items reads opened
  revert items
  decide

theorem redactText_discreet (lawful : parser.Lawful) (reads : toolCallArguments parser keyHint text = none) :
    Redacted parser keyHint (redactText keyHint text).1 ↔ ¬Leaks parser keyHint (.string text) := by
  by_cases placeholder : canonicalTracePlaceholder text = true
  · have kept : redactText keyHint text = (.string text, true) := if_pos placeholder
    rw [kept, redacted_text reads]
    simp [Leaks, reads, placeholder, CutExposes]
  by_cases sensitive : traceSensitiveValueString text = true
  · have marked : (redactText keyHint text).1 = .string "[REDACTED sensitive value]" := by
      simp [redactText, placeholder, sensitive]
    have plain : traceSensitiveValueString "[REDACTED sensitive value]" = false := by decide +kernel
    rw [marked, redacted_text (toolCallArguments_none (fromStr_redacted lawful))]
    simp [Leaks, CutExposes, placeholder, sensitive, plain]
  by_cases media : isMedia keyHint text = true
  · have marked : (redactText keyHint text).1 =
        .string ("<media/binary omitted: " ++ toString text.length ++ " chars>") := by
      simp only [redactText, if_neg placeholder, if_neg sensitive, if_pos media]
    rw [marked, redacted_text (toolCallArguments_none (fromStr_angle lawful
      ("media/binary omitted: ".toList ++ (toString text.length).toList ++ " chars>".toList) (by simp))),
      media_not_sensitive]
    simp [Leaks, CutExposes, placeholder, media]
  by_cases long : maxTraceIoStringChars < text.length
  · have cut : redactText keyHint text = (.string (cutText text), true) := by
      simp [redactText, placeholder, sensitive, media, long.le, long.ne']
    rw [cut, redacted_text (toolCallArguments_none (fromStr_cutText lawful))]
    simp [Leaks, reads, CutExposes, placeholder, sensitive, media, long]
  · have kept : (redactText keyHint text).1 = .string text := by
      simp only [redactText, placeholder, sensitive, media]
      grind
    rw [kept, redacted_text reads]
    simp [Leaks, placeholder, sensitive, CutExposes, long]

/-! ## Values -/

theorem mem_outputFields (sorted : Sorted fields) {field : String × Value} :
    field ∈ outputFields parser depth fields ↔
      (∃ source ∈ keptFields fields, (source.1, (redactField parser depth source).1) = field) ∨
        maxTraceIoItems < fields.length ∧ field = ("…", .string "<more fields>") := by
  by_cases many : maxTraceIoItems < fields.length
  · have kept : ∀ source, source ∈ keptFields fields ↔ source ∈ fields.take maxTraceIoItems ∧ source.1 ≠ "…" := by
      simp [keptFields, not_le.mpr many]
    have shownSorted : Sorted (redactFields parser depth (fields.take maxTraceIoItems)) :=
      sorted_redactFields (sorted.sublist (List.take_sublist _ _))
    rw [outputFields, if_pos many, mem_insertField_iff shownSorted, or_comm]
    simp only [many, true_and, mem_redactFields, kept]
    apply or_congr_left
    constructor
    · rintro ⟨⟨source, mem, rfl⟩, other⟩
      exact ⟨source, ⟨mem, other⟩, rfl⟩
    · rintro ⟨source, ⟨mem, other⟩, rfl⟩
      exact ⟨⟨source, mem, rfl⟩, other⟩
  · have kept : keptFields fields = fields := by
      rw [keptFields]
      simp [not_lt.mp many]
    rw [outputFields, if_neg many, mem_redactFields, kept]
    simp [many]

/-- Redaction shows something sensitive exactly where a part that it gets to leaks. -/
theorem redact_discreet (lawful : parser.Lawful) (value : Value) (wellFormed : value.WellFormed) :
    Redacted parser keyHint (redactTraceIoValue parser depth keyHint value).1 ↔
      ∀ partDepth partHint part, Reached parser depth keyHint value partDepth partHint part →
        ¬Leaks parser partHint part := by
  induction depth, keyHint, value using redactTraceIoValue.induct parser with
  | case1 depth keyHint value isOmitted =>
    have plain : ∀ shape ∈ ["null", "boolean", "number", "string", "array", "object"],
        traceSensitiveValueString ("<" ++ shape ++ " omitted>") = false := by decide +kernel
    rw [redact_omitted isOmitted, reached_omitted isOmitted, redacted_text (toolCallArguments_none
      (fromStr_angle lawful ((traceValueShape value).toList ++ " omitted>".toList) (by simp)))]
    simp only [plain _ (traceValueShape_text value), true_iff]
    cases value <;> simp_all [Leaks, omitted, Value.isContainer]
  | case2 depth keyHint fields shown binary =>
    have plainBinary : traceSensitiveValueString "<_vifuBinary object omitted>" = false := by decide +kernel
    rw [redact_binary shown binary, reached_binary binary, redacted_text (toolCallArguments_none
      (fromStr_angle lawful ("_vifuBinary object omitted>".toList) (by decide)))]
    simp only [plainBinary, Leaks, not_false_eq_true]
  | case3 depth keyHint fields shown plain ih =>
    rw [Value.wellFormed_object] at wellFormed
    rw [redact_object shown plain, reached_object shown plain, redacted_object]
    have discreet : Discreet (.object (outputFields parser depth fields)) := by
      intro field mem sensitive
      cases (mem_outputFields wellFormed.1).mp mem with
      | inl isKept =>
        obtain ⟨source, _, rfl⟩ := isKept
        exact congrArg Prod.fst (if_pos sensitive)
      | inr isMark =>
        have harmless : traceSensitiveKey "…" = false := by decide
        simp [isMark.2, harmless] at sensitive
    have noLeak : ¬Leaks parser keyHint (.object fields) := fun leaks => False.elim leaks
    have mark : Redacted parser (some "…") (.string "<more fields>") := by
      have plain : traceSensitiveValueString "<more fields>" = false := by decide +kernel
      rw [redacted_text (toolCallArguments_none (fromStr_angle lawful ("more fields>".toList) (by decide)))]
      exact plain
    have marker : ∀ key, Redacted parser (some key) (.string "[REDACTED]") := by
      have plain : traceSensitiveValueString "[REDACTED]" = false := by decide +kernel
      intro key
      rw [redacted_text (toolCallArguments_none (fromStr_marker lawful))]
      exact plain
    simp only [discreet, noLeak, true_and, not_false_eq_true]
    constructor
    · intro redacted field mem harmless
      have isField := wellFormed.2 field (List.mem_of_mem_take (List.mem_of_mem_filter mem))
      have shownField := redacted _ ((mem_outputFields wellFormed.1).mpr (Or.inl ⟨field, mem, rfl⟩))
      rw [redactField, if_neg harmless] at shownField
      exact (ih field isField).mp shownField
    · intro silent field mem
      cases (mem_outputFields wellFormed.1).mp mem with
      | inr isMark => exact isMark.2 ▸ mark
      | inl isKept =>
        obtain ⟨source, isSource, rfl⟩ := isKept
        have isField := wellFormed.2 source (List.mem_of_mem_take (List.mem_of_mem_filter isSource))
        by_cases sensitive : traceSensitiveKey source.1 = true
        · simp only [redactField, if_pos sensitive]
          exact marker source.1
        · simp only [redactField, if_neg sensitive]
          exact (ih source isField).mpr (silent source isSource sensitive)
  | case4 depth keyHint values shown ih =>
    rw [Value.wellFormed_array] at wellFormed
    have noLeak : ¬Leaks parser keyHint (.array values) := fun leaks => False.elim leaks
    rw [redact_array shown, reached_array shown, redacted_array, List.forall_mem_map]
    simp only [noLeak, true_and, not_false_eq_true]
    apply forall₂_congr
    intro value mem
    exact ih value (wellFormed value (List.mem_of_mem_take mem))
  | case5 depth keyHint text _ decoded reads ih =>
    rw [redact_arguments reads, reached_arguments reads,
      ih (lawful.wellFormed (fromStr_of_toolCallArguments reads))]
    simp [Leaks, reads]
  | case6 depth keyHint text _ reads =>
    rw [redact_text reads, reached_text reads, redactText_discreet lawful reads]
  | case7 | case8 | case9 =>
    rw [reached_scalar (by simp [Value.isContainer]) (by simp)]
    simp only [redact_null, redact_bool, redact_number, Leaks, not_false_eq_true, iff_true]
    exact redacted_scalar rfl (by simp)

theorem redacted_shapeSummary (value : Value) : Redacted parser none (shapeSummary value) := by
  have harmless : traceSensitiveKey "summary" = false ∧ traceSensitiveKey "truncated" = false := by decide
  have noArguments : traceToolCallArgumentsKey "summary" = false := by decide
  have plain : ∀ shape ∈ ["null", "boolean", "number", "string", "array", "object"],
      traceSensitiveValueString shape = false := by decide +kernel
  rw [shapeSummary, redacted_object, List.forall_mem_cons, List.forall_mem_singleton]
  refine ⟨by simp [Discreet, harmless], ?_, redacted_scalar rfl (by simp)⟩
  rw [redacted_text (by simp [toolCallArguments, noArguments])]
  exact plain _ (traceValueShape_text value)

/-- The canonical summary of a value shows no value under a sensitive key and no text that the
detector recognises. -/
def SummaryDiscreet (floats : FloatText) (parser : JsonParser) (value : Value) : Prop :=
  Redacted parser none (canonicalTraceIoSummary floats parser value).value

/-- A summary shows something sensitive exactly where a text leaks and the value is not replaced by
its shape. -/
theorem canonical_summary_discreet_iff (floats : FloatText) (parser : JsonParser) (value : Value)
    (lawful : parser.Lawful) (wellFormed : value.WellFormed) : SummaryDiscreet floats parser value ↔
      Oversized floats parser value ∨
        ∀ depth keyHint part, Reached parser 0 none value depth keyHint part → ¬Leaks parser keyHint part := by
  rw [SummaryDiscreet]
  by_cases large : Oversized floats parser value
  · have summary : canonicalTraceIoSummary floats parser value = ⟨shapeSummary value, true⟩ := if_pos large
    simp [summary, redacted_shapeSummary, large]
  · have summary : canonicalTraceIoSummary floats parser value =
        ⟨(redactTraceIoValue parser 0 none value).1, (redactTraceIoValue parser 0 none value).2⟩ := if_neg large
    simp only [summary, redact_discreet lawful value wellFormed, large, false_or]

theorem canonical_summary_discreet_tool_call : emptyObjectParser.Lawful ∧ toolCallValue.WellFormed ∧
      (SummaryDiscreet (fun _ => "0.5") emptyObjectParser toolCallValue ↔
        Oversized (fun _ => "0.5") emptyObjectParser toolCallValue ∨
          ∀ depth keyHint part, Reached emptyObjectParser 0 none toolCallValue depth keyHint part →
            ¬Leaks emptyObjectParser keyHint part) := by
  have wellFormed : toolCallValue.WellFormed := by
    simp [toolCallValue, Sorted]
    decide
  exact ⟨emptyObjectParser_lawful, wellFormed,
    canonical_summary_discreet_iff _ _ _ emptyObjectParser_lawful wellFormed⟩

/-- A credential in angle brackets that end like a placeholder is shown. -/
theorem bracketed_credential_shown : ¬SummaryDiscreet (fun _ => "0.5") emptyObjectParser
      (.object [("note", .string "<Bearer sk-live-1 omitted>")]) := by
  have summary : (canonicalTraceIoSummary (fun _ => "0.5") emptyObjectParser
      (.object [("note", .string "<Bearer sk-live-1 omitted>")])).value =
        .object [("note", .string "<Bearer sk-live-1 omitted>")] := by decide +kernel
  have recognised : ¬Discreet (.string "<Bearer sk-live-1 omitted>") := by
    rw [Discreet]
    decide +kernel
  rw [SummaryDiscreet, summary]
  intro redacted
  exact recognised (redacted _ _ (.field (List.mem_singleton_self _) .here))

end

end Vifu.Gateway
