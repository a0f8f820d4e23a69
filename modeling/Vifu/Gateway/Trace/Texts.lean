import Vifu.Foundation.Text
import Vifu.Gateway.Trace.Redaction

/-!
# Texts that redaction writes

Redaction puts its own texts in place of what it leaves out.  None of them is the text of a JSON
value, and redacting them again leaves them as they are, except that a text that was cut may be
recognised as sensitive only after the cut.
-/

namespace Vifu.Gateway

open Foundation Vifu.Runtime

section

variable {α : Type} {drops : α → Bool} {before after : List α} {mark : α}

theorem prefix_before_mark {pattern before after : List α} (unmarked : mark ∉ pattern)
    (isPrefix : pattern <+: before ++ mark :: after) : pattern <+: before := by
  by_cases short : pattern.length ≤ before.length
  · exact List.prefix_of_prefix_length_le isPrefix (List.prefix_append before _) short
  · have marked : before ++ [mark] <+: pattern := by
      apply List.prefix_of_prefix_length_le _ isPrefix
      · simp only [List.length_append, List.length_singleton]
        omega
      · exact ⟨after, by simp⟩
    exact absurd (marked.subset (by simp)) unmarked

theorem dropWhile_prefix_dropWhile (isPrefix : before <+: after) :
    before.dropWhile drops <+: after.dropWhile drops := by
  obtain ⟨rest, rfl⟩ := isPrefix
  rw [List.dropWhile_append]
  split
  · next isEmpty =>
    rw [List.isEmpty_iff.mp isEmpty]
    exact List.nil_prefix
  · exact List.prefix_append _ _

theorem dropWhile_before_mark (kept : drops mark = false) :
    (before ++ mark :: after).dropWhile drops = before.dropWhile drops ++ mark :: after := by
  rw [List.dropWhile_append]
  split
  · next isEmpty => simp [List.isEmpty_iff.mp isEmpty, kept]
  · rfl

theorem mem_dropWhile_of_mem {elements : List α} {element : α} (mem : element ∈ elements)
    (kept : drops element = false) : element ∈ elements.dropWhile drops := by
  induction elements with
  | nil => cases mem
  | cons head elements ih =>
    rw [List.dropWhile_cons]
    split
    · next dropped =>
      apply ih
      rw [List.mem_cons] at mem
      apply mem.resolve_left
      intro same
      simp [same, dropped] at kept
    · exact mem

end

variable {depth : ℕ}

section

variable {parser : JsonParser} {keyHint : Option String} {text : String}

theorem toolCallArguments_none (fails : parser.fromStr text = none) :
    toolCallArguments parser keyHint text = none := by
  simp [toolCallArguments, fails]

theorem fromStr_angle (lawful : parser.Lawful) (rest : List Char) (starts : text.toList = '<' :: rest) :
    parser.fromStr text = none := by
  by_contra reads
  obtain ⟨value, reads⟩ := Option.ne_none_iff_exists'.mp reads
  have opens := lawful.opens reads
  simp [starts, isJsonSpace, opensJson] at opens

theorem fromStr_angle_end (lawful : parser.Lawful) (front : List Char) (ends : text.toList = front ++ ['>']) :
    parser.fromStr text = none := by
  by_contra reads
  obtain ⟨value, reads⟩ := Option.ne_none_iff_exists'.mp reads
  have closes := lawful.closes reads
  simp [ends, isJsonSpace, closesJson] at closes

theorem fromStr_redacted (lawful : parser.Lawful) : parser.fromStr "[REDACTED sensitive value]" = none := by
  by_contra reads
  obtain ⟨value, reads⟩ := Option.ne_none_iff_exists'.mp reads
  have opened : "[REDACTED sensitive value]".toList = '[' :: "REDACTED sensitive value]".toList := by decide
  have items := lawful.items reads opened
  revert items
  decide

/-! ## Placeholders -/

theorem redact_placeholder (fails : parser.fromStr text = none)
    (placeholder : canonicalTracePlaceholder text = true) :
    redactTraceIoValue parser depth keyHint (.string text) = (.string text, true) := by
  rw [redact_text (toolCallArguments_none fails), redactText, if_pos placeholder]

theorem placeholder_omitted (shape : String) :
    canonicalTracePlaceholder ("<" ++ shape ++ " omitted>") = true := by
  have starts : ['<'] <+: ("<" ++ shape ++ " omitted>").toList := ⟨shape.toList ++ " omitted>".toList, by simp⟩
  have ends : " omitted>".toList <:+ ("<" ++ shape ++ " omitted>").toList := ⟨'<' :: shape.toList, by simp⟩
  simp only [canonicalTracePlaceholder, starts, ends, decide_true, Bool.and_self, Bool.or_true, Bool.true_or]

theorem placeholder_media (count : String) :
    canonicalTracePlaceholder ("<media/binary omitted: " ++ count ++ " chars>") = true := by
  have starts : "<media/binary omitted: ".toList <+: ("<media/binary omitted: " ++ count ++ " chars>").toList :=
    ⟨count.toList ++ " chars>".toList, by simp⟩
  have ends : " chars>".toList <:+ ("<media/binary omitted: " ++ count ++ " chars>").toList :=
    ⟨"<media/binary omitted: ".toList ++ count.toList, by simp⟩
  simp only [canonicalTracePlaceholder, starts, ends, decide_true, Bool.and_self, Bool.or_true]

section

variable (lawful : parser.Lawful)
include lawful

@[simp] theorem redact_omitted_text (shape : String) :
    redactTraceIoValue parser depth keyHint (.string ("<" ++ shape ++ " omitted>")) =
      (.string ("<" ++ shape ++ " omitted>"), true) := by
  apply redact_placeholder
  · exact fromStr_angle lawful (shape.toList ++ " omitted>".toList) (by simp)
  · exact placeholder_omitted shape

@[simp] theorem redact_media_text (count : String) :
    redactTraceIoValue parser depth keyHint (.string ("<media/binary omitted: " ++ count ++ " chars>")) =
      (.string ("<media/binary omitted: " ++ count ++ " chars>"), true) := by
  apply redact_placeholder
  · exact fromStr_angle lawful ("media/binary omitted: ".toList ++ count.toList ++ " chars>".toList)
      (by simp)
  · exact placeholder_media count

@[simp] theorem redact_binary_text :
    redactTraceIoValue parser depth keyHint (.string "<_vifuBinary object omitted>") =
      (.string "<_vifuBinary object omitted>", true) :=
  redact_omitted_text lawful "_vifuBinary object"

@[simp] theorem redact_sensitive_text :
    redactTraceIoValue parser depth keyHint (.string "[REDACTED sensitive value]") =
      (.string "[REDACTED sensitive value]", true) :=
  redact_placeholder (fromStr_redacted lawful) (by decide)

@[simp] theorem redact_more_text :
    redactTraceIoValue parser depth keyHint (.string "<more fields>") = (.string "<more fields>", true) := by
  apply redact_placeholder
  · exact fromStr_angle lawful ("more fields>".toList) (by decide)
  · decide

end

end

/-! ## Cut texts -/

section

variable {text : String}

theorem cutSuffix_length (small : text.utf8ByteSize ≤ isizeMax) : (cutSuffix text).length ≤ 36 := by
  have length : text.length ≤ isizeMax := (length_le_utf8ByteSize text).trans small
  have digits : (toString text.length).length ≤ 20 := by
    apply length_toString_le (by decide)
    rw [isizeMax] at length
    omega
  have opening : "… <".length = 3 := by decide
  have closing : " chars total>".length = 13 := by decide
  simp only [cutSuffix, String.length_append, opening, closing]
  omega

theorem cutText_toList : (cutText text).toList =
    text.toList.take (maxTraceIoStringChars - (cutSuffix text).length) ++
      '…' :: (" <" ++ toString text.length ++ " chars total>").toList := by
  have opening : "… <".toList = '…' :: " <".toList := by decide
  simp [cutText, cutSuffix, opening]

theorem cutText_length (small : text.utf8ByteSize ≤ isizeMax) (long : maxTraceIoStringChars < text.length) :
    (cutText text).length = maxTraceIoStringChars := by
  have suffix := cutSuffix_length small
  have limit : maxTraceIoStringChars = 98304 := rfl
  rw [cutText, String.length_append, String.length_ofList, List.length_take, String.length_toList]
  omega

theorem cutText_suffix (text : String) : " chars total>".toList <:+ (cutText text).toList := by
  rw [cutText_toList]
  exact ⟨text.toList.take (maxTraceIoStringChars - (cutSuffix text).length) ++
    '…' :: (" <" ++ toString text.length).toList, by simp⟩

theorem fromStr_cutText {parser : JsonParser} (lawful : parser.Lawful) : parser.fromStr (cutText text) = none := by
  obtain ⟨front, same⟩ := cutText_suffix text
  apply fromStr_angle_end lawful (front ++ " chars total".toList)
  rw [← same]
  simp

theorem placeholder_cutText : canonicalTracePlaceholder (cutText text) = false := by
  have ends := cutText_suffix text
  have differs : ∀ other : String, ¬" chars total>".toList <:+ other.toList → (cutText text == other) = false := by
    intro other notEnd
    rw [beq_eq_false_iff_ne]
    intro same
    exact notEnd (same ▸ ends)
  have noEnd : ∀ ending : List Char, ending.length ≤ " chars total>".toList.length →
      ¬ending <:+ " chars total>".toList → ¬ending <:+ (cutText text).toList :=
    fun ending short notEnd isEnd => notEnd (List.suffix_of_suffix_length_le isEnd ends short)
  simp only [canonicalTracePlaceholder, differs "[REDACTED]" (by decide),
    differs "[REDACTED sensitive value]" (by decide), differs "<_vifuBinary object omitted>" (by decide),
    differs "<more fields>" (by decide), noEnd " omitted>".toList (by decide) (by decide),
    noEnd " chars>".toList (by decide) (by decide), decide_false, Bool.and_false, Bool.or_false]

theorem isMedia_cutText {keyHint : Option String} (plain : isMedia keyHint text = false) :
    isMedia keyHint (cutText text) = false := by
  simp only [isMedia, Bool.or_eq_false_iff] at plain
  obtain ⟨⟨noKey, noData⟩, -⟩ := plain
  have data : startsWithData (cutText text) = false := by
    rw [startsWithData, decide_eq_false_iff_not] at noData ⊢
    intro starts
    rw [cutText_toList, dropWhile_before_mark (by decide), List.map_append] at starts
    have front := prefix_before_mark (by decide) starts
    exact noData (front.trans ((dropWhile_prefix_dropWhile (List.take_prefix _ _)).map _))
  have marked : '…' ∈ (trim (cutText text)).toList := by
    have mem : '…' ∈ (cutText text).toList := by simp [cutText_toList]
    rw [trim, String.toList_ofList, List.mem_reverse]
    apply mem_dropWhile_of_mem _ (by decide)
    rw [List.mem_reverse]
    exact mem_dropWhile_of_mem mem (by decide)
  have base64 : traceLooksLikeBase64 (cutText text) = false := by
    rw [Bool.eq_false_iff]
    intro looks
    simp only [traceLooksLikeBase64, Bool.and_eq_true, List.all_eq_true] at looks
    have inAlphabet := looks.2 '…' marked
    revert inAlphabet
    decide
  simp [isMedia, noKey, data, base64]

end

end Vifu.Gateway
