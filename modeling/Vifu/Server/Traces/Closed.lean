import Vifu.Gateway.Trace.Leaks
import Vifu.Server.Traces.Tables

/-!
# Redaction and its own detector

What the redaction has let through is read again by the same detector.  A redacted value shows nothing that the
detector recognises, and redacting it again changes nothing.  A redacted text may show something: the detector reads
the text before the control characters are taken out of it.
-/

namespace Vifu.Server

open Vifu.Gateway
open Vifu.Runtime

/-! ## Values -/

mutual

/-- Sensitive keys hold the marker, and no text is recognised. -/
def Masked : Value → Prop
  | .object fields => MaskedFields fields
  | .array values => MaskedItems values
  | .string text => containsSensitiveTraceText text = false
  | .null | .bool _ | .number _ => True

def MaskedItems : List Value → Prop
  | [] => True
  | value :: values => Masked value ∧ MaskedItems values

def MaskedFields : List (String × Value) → Prop
  | [] => True
  | (key, value) :: fields =>
    (traceSensitiveKey key = true → value = .string "[REDACTED]") ∧ Masked value ∧ MaskedFields fields

end

def ValueClosed (value : Value) : Prop :=
  Masked (redactTraceValue value) ∧ redactTraceValue (redactTraceValue value) = redactTraceValue value

theorem plain_markers : containsSensitiveTraceText "[REDACTED]" = false ∧
    containsSensitiveTraceText "[REDACTED deep value]" = false ∧
    containsSensitiveTraceText "[REDACTED sensitive value]" = false ∧
    containsSensitiveTraceText "[REDACTED sensitive trace error]" = false := by
  decide +kernel

theorem redact_masked (left : ℕ) (value : Value) : Masked (redact left value) := by
  obtain ⟨marker, deep, sensitive, _⟩ := plain_markers
  apply redact.induct (fun left value => Masked (redact left value))
    (fun left values => MaskedItems (redactItems left values))
    (fun left fields => MaskedFields (redactFields left fields))
  case case1 =>
    intro value
    simpa only [redact, Masked] using deep
  case case2 =>
    intro left fields masked
    simpa only [redact, Masked] using masked
  case case3 =>
    intro left values masked
    simpa only [redact, Masked] using masked
  case case4 =>
    intro left text recognised
    simpa only [redact, if_pos recognised, Masked] using sensitive
  case case5 =>
    intro left text plain
    simpa only [redact, if_neg plain, Masked, Bool.not_eq_true] using plain
  case case10 =>
    intro left value values first others
    simpa only [redactItems, MaskedItems] using And.intro first others
  case case12 =>
    intro left key value fields first others
    refine ⟨fun isSensitive => if_pos isSensitive, ?_, others⟩
    split
    · simpa only [Masked] using marker
    · exact first
  all_goals
    intros
    simp only [redact, redactItems, redactFields, Masked, MaskedItems, MaskedFields]

theorem redact_redact (left : ℕ) (value : Value) : redact left (redact left value) = redact left value := by
  apply redact.induct (fun left value => redact left (redact left value) = redact left value)
    (fun left values => redactItems left (redactItems left values) = redactItems left values)
    (fun left fields => redactFields left (redactFields left fields) = redactFields left fields)
  case case4 =>
    intro left text recognised
    have plain := Bool.not_eq_true _ ▸ plain_markers.2.2.1
    simp only [redact, if_pos recognised, if_neg plain]
  case case5 =>
    intro left text plain
    simp only [redact, if_neg plain]
  case case10 =>
    intro left value values first others
    simp only [redactItems, first, others]
  case case12 =>
    intro left key value fields first others
    simp only [redactFields, others]
    split
    · rfl
    · rw [first]
  all_goals
    intros
    simp only [redact, redactItems, redactFields, *]

theorem redactTraceValue_closed (value : Value) : ValueClosed value :=
  ⟨redact_masked _ value, redact_redact _ value⟩

/-! ## Where the detector finds something -/

/-- `str::trim` of characters. -/
def trimmed (characters : List Char) : List Char :=
  ((characters.dropWhile isWhitespace).reverse.dropWhile isWhitespace).reverse

def sensitiveTextStarts : List String := ["data:", "bearer ", "basic "]

/-- Characters that a marker consists of, or that follow blanks and begin as a sensitive text does. -/
def SpellsSensitive (before spelled : List Char) : Prop :=
  (∃ marker ∈ sensitiveTextMarkers, spelled.map Char.toLower = marker.toList) ∨
    (∀ character ∈ before, isWhitespace character = true) ∧ (∀ last ∈ spelled.getLast?, isWhitespace last = false) ∧
      ∃ start ∈ sensitiveTextStarts, start.toList <+: spelled.map Char.toLower

theorem toLower_blank {character : Char} (blank : isWhitespace character = true) : character.toLower = character := by
  apply dif_neg
  intro upper
  have code : 65 ≤ character.toNat ∧ character.toNat ≤ 90 := upper
  simp only [isWhitespace, Bool.or_eq_true, Bool.and_eq_true, decide_eq_true_eq, beq_iff_eq] at blank
  omega

theorem kept_of_toLower {character lower : Char} (same : character.toLower = lower)
    (kept : isWhitespace lower = false) : isWhitespace character = false := by
  by_contra blank
  rw [Bool.not_eq_false] at blank
  rw [← same, toLower_blank blank, blank] at kept
  cases kept

theorem trimmed_around {before spelled after : List Char} (spells : spelled ≠ [])
    (first : ∀ character ∈ spelled.head?, isWhitespace character = false)
    (last : ∀ character ∈ spelled.getLast?, isWhitespace character = false) :
    trimmed (before ++ spelled ++ after) =
      before.dropWhile isWhitespace ++ spelled ++ (after.reverse.dropWhile isWhitespace).reverse := by
  obtain ⟨head, tail, rfl⟩ := List.exists_cons_of_ne_nil spells
  obtain ⟨front, final, isLast⟩ := List.eq_nil_or_concat (head :: tail) |>.resolve_left spells
  have keptHead := first head rfl
  have keptFinal := last final (by rw [isLast]; simp)
  have dropped : (before ++ head :: tail ++ after).dropWhile isWhitespace =
      before.dropWhile isWhitespace ++ (head :: tail) ++ after := by
    rw [List.append_assoc, List.cons_append, dropWhile_before_mark keptHead]
    simp
  have reversed : (before.dropWhile isWhitespace ++ (head :: tail) ++ after).reverse =
      after.reverse ++ final :: (front.reverse ++ (before.dropWhile isWhitespace).reverse) := by
    rw [isLast]
    simp
  rw [trimmed, dropped, reversed, dropWhile_before_mark keptFinal, isLast]
  simp

theorem markers_kept :
    (∀ marker ∈ sensitiveTextMarkers, marker.toList ≠ [] ∧ (∀ first ∈ marker.toList.head?, isWhitespace first = false) ∧
      ∀ last ∈ marker.toList.getLast?, isWhitespace last = false) ∧
    ∀ start ∈ sensitiveTextStarts, start.toList ≠ [] ∧ ∀ first ∈ start.toList.head?, isWhitespace first = false := by
  delta sensitiveTextMarkers sensitiveTextStarts
  simp [isWhitespace]

variable {characters : List Char} {text : String}

theorem marker_spelled {marker : String} (isMarker : marker ∈ sensitiveTextMarkers) :
    marker.toList <:+: (trimmed characters).map Char.toLower ↔ ∃ before spelled after,
      characters = before ++ spelled ++ after ∧ spelled.map Char.toLower = marker.toList := by
  obtain ⟨some, first, last⟩ := markers_kept.1 marker isMarker
  constructor
  · rintro ⟨before, after, parts⟩
    obtain ⟨front, rest, isTrimmed, frontLower, restLower⟩ := List.map_eq_append_iff.mp parts.symm
    obtain ⟨early, spelled, isFront, _, spells⟩ := List.map_eq_append_iff.mp frontLower
    have inside : trimmed characters <:+: characters := by
      have trims := trim_isInfix (.ofList characters)
      rwa [trim, String.toList_ofList, String.toList_ofList] at trims
    obtain ⟨blanks, others, whole⟩ := inside
    refine ⟨blanks ++ early, spelled, rest ++ others, ?_, spells⟩
    rw [← whole, isTrimmed, isFront]
    simp
  · rintro ⟨before, spelled, after, rfl, spells⟩
    have spelledSome : spelled ≠ [] := by
      rintro rfl
      exact some spells.symm
    have firstKept : ∀ character ∈ spelled.head?, isWhitespace character = false := by
      intro character isFirst
      apply kept_of_toLower rfl
      apply first
      rw [← spells, List.head?_map, isFirst]
      rfl
    have lastKept : ∀ character ∈ spelled.getLast?, isWhitespace character = false := by
      intro character isLast
      apply kept_of_toLower rfl
      apply last
      rw [← spells, List.getLast?_map, isLast]
      rfl
    rw [trimmed_around spelledSome firstKept lastKept, List.map_append, List.map_append, spells]
    exact ⟨_, _, rfl⟩

theorem start_spelled {start : String} (isStart : start ∈ sensitiveTextStarts) :
    start.toList <+: (trimmed characters).map Char.toLower ↔ ∃ before spelled after,
      characters = before ++ spelled ++ after ∧ (∀ character ∈ before, isWhitespace character = true) ∧
        (∀ last ∈ spelled.getLast?, isWhitespace last = false) ∧ start.toList <+: spelled.map Char.toLower := by
  obtain ⟨some, kept⟩ := markers_kept.2 start isStart
  obtain ⟨first, rest, startParts⟩ := List.exists_cons_of_ne_nil some
  have firstKept : isWhitespace first = false := kept first (by rw [startParts]; rfl)
  constructor
  · intro starts
    let behind := characters.dropWhile isWhitespace
    refine ⟨characters.takeWhile isWhitespace, trimmed characters, (behind.reverse.takeWhile isWhitespace).reverse,
      ?_, ?_, ?_, starts⟩
    · have ends := congrArg List.reverse (List.takeWhile_append_dropWhile (p := isWhitespace) (l := behind.reverse))
      rw [List.reverse_append, List.reverse_reverse] at ends
      rw [List.append_assoc, trimmed, ends]
      exact List.takeWhile_append_dropWhile.symm
    · intro character mem
      exact List.mem_takeWhile_imp mem
    · intro last isLast
      rw [trimmed, List.getLast?_reverse] at isLast
      have dropped := List.head?_dropWhile_not isWhitespace behind.reverse
      rw [isLast] at dropped
      simpa using dropped
  · rintro ⟨before, spelled, after, rfl, blanks, last, starts⟩
    obtain ⟨remaining, spells⟩ := starts
    rw [startParts] at spells
    obtain ⟨head, tail, rfl⟩ : ∃ head tail, spelled = head :: tail := by
      apply List.exists_cons_of_ne_nil
      rintro rfl
      simp at spells
    have headKept : isWhitespace head = false := by
      apply kept_of_toLower _ firstKept
      simpa using (List.cons.inj spells).1.symm
    have noBlanks : before.dropWhile isWhitespace = [] := List.dropWhile_eq_nil_iff.mpr blanks
    rw [trimmed_around (List.cons_ne_nil _ _) (by rintro _ ⟨⟩; exact headKept) last, noBlanks, List.nil_append,
      List.map_append, ← spells, startParts]
    exact ⟨remaining ++ _, (List.append_assoc _ _ _).symm⟩

theorem containsSensitiveTraceText_iff (characters : List Char) :
    containsSensitiveTraceText (.ofList characters) = true ↔ ∃ before spelled after,
      characters = before ++ spelled ++ after ∧ SpellsSensitive before spelled := by
  have normalized : normalizedText (.ofList characters) = (trimmed characters).map Char.toLower := by
    simp [normalizedText, toAsciiLowercase, trim, trimmed]
  simp only [containsSensitiveTraceText, normalized, Bool.or_eq_true, List.any_eq_true, decide_eq_true_eq]
  constructor
  · rintro (⟨start, isStart, starts⟩ | ⟨marker, isMarker, inside⟩)
    · obtain ⟨before, spelled, after, parts, blanks, last, spells⟩ := (start_spelled isStart).mp starts
      exact ⟨before, spelled, after, parts, .inr ⟨blanks, last, start, isStart, spells⟩⟩
    · obtain ⟨before, spelled, after, parts, spells⟩ := (marker_spelled isMarker).mp inside
      exact ⟨before, spelled, after, parts, .inl ⟨marker, isMarker, spells⟩⟩
  · rintro ⟨before, spelled, after, parts, ⟨marker, isMarker, spells⟩ | ⟨blanks, last, start, isStart, spells⟩⟩
    · exact .inr ⟨marker, isMarker, (marker_spelled isMarker).mpr ⟨before, spelled, after, parts, spells⟩⟩
    · exact .inl ⟨start, isStart, (start_spelled isStart).mpr ⟨before, spelled, after, parts, blanks, last, spells⟩⟩

/-! ## Texts -/

def visible (character : Char) : Bool := !isControl character || character == '\n' || character == '\t'

/-- A text that is not recognised and spells, within what is kept of it, something sensitive once the control
    characters are taken out. -/
def HidesMarker (text : String) : Prop :=
  containsSensitiveTraceText text = false ∧ ∃ before spelled after, text.toList = before ++ spelled ++ after ∧
    ((before ++ spelled).filter visible).length ≤ maxTraceTextChars ∧
      SpellsSensitive (before.filter visible) (spelled.filter visible)

def TextClosed (text : String) : Prop :=
  containsSensitiveTraceText (redactTraceText text) = false ∧
    redactTraceText (redactTraceText text) = redactTraceText text

theorem redactTraceText_plain (plain : containsSensitiveTraceText text = false) :
    redactTraceText text = .ofList ((text.toList.filter visible).take maxTraceTextChars) := by
  rw [redactTraceText, plain]
  rfl

theorem shown_iff_hidden (plain : containsSensitiveTraceText text = false) :
    containsSensitiveTraceText (redactTraceText text) = true ↔ HidesMarker text := by
  rw [redactTraceText_plain plain, containsSensitiveTraceText_iff]
  constructor
  · rintro ⟨before, spelled, after, parts, spells⟩
    have whole : text.toList.filter visible =
        before ++ (spelled ++ (after ++ (text.toList.filter visible).drop maxTraceTextChars)) := by
      conv_lhs => rw [← List.take_append_drop maxTraceTextChars (text.toList.filter visible), parts]
      simp only [List.append_assoc]
    obtain ⟨early, rest, isText, rfl, isRest⟩ := List.filter_eq_append_iff.mp whole
    obtain ⟨middle, late, rfl, rfl, _⟩ := List.filter_eq_append_iff.mp isRest
    refine ⟨plain, early, middle, late, by rw [isText, List.append_assoc], ?_, spells⟩
    have short := congrArg List.length parts
    rw [List.length_take, List.length_append, ← List.filter_append] at short
    omega
  · rintro ⟨_, before, spelled, after, parts, short, spells⟩
    refine ⟨before.filter visible, spelled.filter visible,
      (after.filter visible).take (maxTraceTextChars - ((before ++ spelled).filter visible).length), ?_, spells⟩
    rw [parts, List.filter_append, List.take_append, List.take_of_length_le short, List.filter_append]

theorem redactTraceText_closed_iff (text : String) : TextClosed text ↔ ¬HidesMarker text := by
  cases recognised : containsSensitiveTraceText text with
  | true =>
    have marked : redactTraceText text = "[REDACTED sensitive trace error]" := if_pos recognised
    have plain : ¬HidesMarker text := by
      intro hides
      rw [hides.1] at recognised
      cases recognised
    simp only [plain, not_false_eq_true, iff_true, TextClosed, marked]
    exact ⟨plain_markers.2.2.2, by decide +kernel⟩
  | false =>
    rw [← shown_iff_hidden recognised, Bool.not_eq_true]
    constructor
    · exact And.left
    · intro unseen
      refine ⟨unseen, ?_⟩
      rw [redactTraceText_plain unseen, redactTraceText_plain recognised, String.toList_ofList]
      apply congrArg String.ofList
      have kept : ∀ character ∈ (text.toList.filter visible).take maxTraceTextChars, visible character = true := by
        intro character mem
        exact (List.mem_filter.mp (List.mem_of_mem_take mem)).2
      rw [List.filter_eq_self.mpr kept, List.take_take, min_self]

/-- Redacting values is closed under the detector, and redacting texts just where no marker is hidden between
    control characters. -/
theorem redaction_closed_iff (value : Value) (text : String) :
    ValueClosed value ∧ TextClosed text ↔ ¬HidesMarker text := by
  rw [redactTraceText_closed_iff]
  exact and_iff_right (redactTraceValue_closed value)

/-- A control character in the middle of a marker hides it until it is taken out. -/
theorem split_marker_shown : ¬∀ (value : Value) (text : String), ValueClosed value ∧ TextClosed text := by
  intro closed
  have seen := (closed .null "to\x01ken: mellon").2.1
  revert seen
  decide +kernel

end Vifu.Server
