import Mathlib.Data.List.Infix

/-!
# The shape of JSON texts

A coarse grammar that every JSON text conforms to.  It is enough to see where a text ends: a reader that counts
brackets is back at its depth only at the end of a string, an array or an object, so none of them continues another.
Numbers are the values that go on.
-/

namespace Foundation.JsonShape

def NumberText (text : List Char) : Prop := text ≠ [] ∧ ∀ character ∈ text, character ∈ "0123456789+-.eE".toList

def Blank (text : List Char) : Prop := ∀ character ∈ text, character ∈ " \t\n\r".toList

inductive StringBody : List Char → Prop where
  | done : StringBody []
  | plain {character : Char} {rest : List Char} (notQuote : character ≠ '"') (notEscape : character ≠ '\\')
      (body : StringBody rest) : StringBody (character :: rest)
  | escape (character : Char) {rest : List Char} (body : StringBody rest) : StringBody ('\\' :: character :: rest)

/-- A value, or what stands inside an array or an object: values, blanks, commas and colons. -/
inductive Part where
  | value
  | content

def words : List (List Char) := ["null".toList, "true".toList, "false".toList]

inductive Spells : Part → List Char → Prop where
  | word {text : List Char} (isWord : text ∈ words) : Spells .value text
  | number {text : List Char} (digits : NumberText text) : Spells .value text
  | string {text : List Char} (body : StringBody text) : Spells .value ('"' :: (text ++ ['"']))
  | array {text : List Char} (inner : Spells .content text) : Spells .value ('[' :: (text ++ [']']))
  | object {text : List Char} (inner : Spells .content text) : Spells .value ('{' :: (text ++ ['}']))
  | empty : Spells .content []
  | item {text rest : List Char} (value : Spells .value text) (others : Spells .content rest) :
      Spells .content (text ++ rest)
  | separator {character : Char} {rest : List Char} (isSeparator : character ∈ " \t\n\r,:".toList)
      (others : Spells .content rest) : Spells .content (character :: rest)

def JsonText (text : List Char) : Prop :=
  ∃ before core after, text = before ++ core ++ after ∧ Blank before ∧ Blank after ∧ Spells .value core

/-! ## A reader that counts brackets -/

inductive Scan where
  | outside (depth : ℕ)
  | inside (depth : ℕ)
  | escaped (depth : ℕ)
  deriving DecidableEq

def Scan.depth : Scan → ℕ
  | .outside depth | .inside depth | .escaped depth => depth

def scan : Scan → Char → Scan
  | .outside depth, character =>
    if character = '"' then .inside depth
    else if character = '[' ∨ character = '{' then .outside (depth + 1)
    else if character = ']' ∨ character = '}' then .outside (depth - 1)
    else .outside depth
  | .inside depth, character =>
    if character = '\\' then .escaped depth else if character = '"' then .outside depth else .inside depth
  | .escaped depth, _ => .inside depth

/-- The characters with which a string, an array or an object begins or ends. -/
def delimiters : List Char := ['"', '[', ']', '{', '}']

theorem scan_neutral {character : Char} (neutral : character ∉ delimiters) (depth : ℕ) :
    scan (.outside depth) character = .outside depth := by
  simp only [delimiters, List.mem_cons, List.not_mem_nil, or_false, not_or] at neutral
  rw [scan, if_neg neutral.1, if_neg (by simp [neutral]), if_neg (by simp [neutral])]

variable {text : List Char} {depth : ℕ}

theorem scan_neutral_text (neutral : ∀ character ∈ text, character ∉ delimiters) (depth : ℕ) :
    text.foldl scan (.outside depth) = .outside depth := by
  induction text with
  | nil => rfl
  | cons character rest ih =>
    rw [List.foldl_cons, scan_neutral (neutral character (by simp))]
    exact ih fun other isOther => neutral other (by simp [isOther])

theorem NumberText.neutral (digits : NumberText text) : ∀ character ∈ text, character ∉ delimiters := by
  intro character isCharacter isDelimiter
  have isDigit := digits.2 character isCharacter
  have apart : ∀ other ∈ delimiters, other ∉ "0123456789+-.eE".toList :=
    @of_decide_eq_true _ (List.decidableBAll _ _) rfl
  exact apart character isDelimiter isDigit

theorem StringBody.scan (body : StringBody text) (depth : ℕ) :
    text.foldl scan (.inside depth) = .inside depth ∧ ∀ beginning, beginning <+: text →
      beginning.foldl JsonShape.scan (.inside depth) = .inside depth ∨
        beginning.foldl JsonShape.scan (.inside depth) = .escaped depth := by
  induction body with
  | done => simp
  | @plain character rest notQuote notEscape body ih =>
    have step : JsonShape.scan (.inside depth) character = .inside depth := by
      rw [JsonShape.scan, if_neg notEscape, if_neg notQuote]
    refine ⟨by rw [List.foldl_cons, step, ih.1], fun beginning isBeginning => ?_⟩
    obtain rfl | ⟨more, rfl, isMore⟩ := List.prefix_cons_iff.mp isBeginning
    · simp
    · rw [List.foldl_cons, step]
      exact ih.2 more isMore
  | @escape character rest body ih =>
    refine ⟨by simpa [JsonShape.scan] using ih.1, fun beginning isBeginning => ?_⟩
    obtain rfl | ⟨more, rfl, isMore⟩ := List.prefix_cons_iff.mp isBeginning
    · simp
    · obtain rfl | ⟨others, rfl, isOthers⟩ := List.prefix_cons_iff.mp isMore
      · simp [JsonShape.scan]
      · simpa [JsonShape.scan] using ih.2 others isOthers

/-- A text that is read without leaving the depth at which it begins. -/
def Balanced (text : List Char) (depth : ℕ) : Prop :=
  text.foldl scan (.outside depth) = .outside depth ∧
    ∀ beginning, beginning <+: text → depth ≤ (beginning.foldl scan (.outside depth)).depth

theorem Balanced.of_neutral (neutral : ∀ character ∈ text, character ∉ delimiters) (depth : ℕ) :
    Balanced text depth := by
  refine ⟨scan_neutral_text neutral depth, fun beginning isBeginning => ?_⟩
  rw [scan_neutral_text fun character isCharacter => neutral character (isBeginning.subset isCharacter)]
  exact le_rfl

theorem Balanced.append {text rest : List Char} (first : Balanced text depth) (second : Balanced rest depth) :
    Balanced (text ++ rest) depth := by
  refine ⟨by rw [List.foldl_append, first.1, second.1], fun beginning isBeginning => ?_⟩
  obtain isFirst | isLonger := List.prefix_or_prefix_of_prefix isBeginning (List.prefix_append text rest)
  · exact first.2 beginning isFirst
  · obtain ⟨more, rfl⟩ := isLonger
    rw [List.foldl_append, first.1]
    exact second.2 more ((List.prefix_append_right_inj text).mp isBeginning)

/-- The beginnings of a string, an array or an object that are neither empty nor the whole. -/
def ProperBeginning (beginning text : List Char) : Prop := beginning <+: text ∧ beginning ≠ [] ∧ beginning ≠ text

theorem Balanced.bracketed (opening closing : Char)
    (opens : scan (.outside depth) opening = .outside (depth + 1))
    (closes : scan (.outside (depth + 1)) closing = .outside depth) (inner : Balanced text (depth + 1)) :
    (opening :: (text ++ [closing])).foldl scan (.outside depth) = .outside depth ∧
      ∀ beginning, ProperBeginning beginning (opening :: (text ++ [closing])) →
        depth < (beginning.foldl scan (.outside depth)).depth := by
  refine ⟨by simp [opens, inner.1, closes], fun beginning proper => ?_⟩
  obtain ⟨isBeginning, nonEmpty, notWhole⟩ := proper
  obtain rfl | ⟨more, rfl, isMore⟩ := List.prefix_cons_iff.mp isBeginning
  · exact absurd rfl nonEmpty
  · obtain rfl | isInner := List.prefix_concat_iff.mp isMore
    · exact absurd rfl notWhole
    · rw [List.foldl_cons, opens]
      exact inner.2 more isInner

theorem StringBody.quoted (body : StringBody text) (depth : ℕ) :
    ('"' :: (text ++ ['"'])).foldl JsonShape.scan (.outside depth) = .outside depth ∧
      ∀ beginning, ProperBeginning beginning ('"' :: (text ++ ['"'])) →
        beginning.foldl JsonShape.scan (.outside depth) = .inside depth ∨
          beginning.foldl JsonShape.scan (.outside depth) = .escaped depth := by
  obtain ⟨whole, beginnings⟩ := body.scan depth
  have opens : JsonShape.scan (.outside depth) '"' = .inside depth := rfl
  refine ⟨by simp [whole, JsonShape.scan], fun beginning proper => ?_⟩
  obtain ⟨isBeginning, nonEmpty, notWhole⟩ := proper
  obtain rfl | ⟨more, rfl, isMore⟩ := List.prefix_cons_iff.mp isBeginning
  · exact absurd rfl nonEmpty
  · obtain rfl | isInner := List.prefix_concat_iff.mp isMore
    · exact absurd rfl notWhole
    · rw [List.foldl_cons, opens]
      exact beginnings more isInner

theorem Balanced.of_proper (whole : text.foldl scan (.outside depth) = .outside depth)
    (proper : ∀ beginning, ProperBeginning beginning text → depth ≤ (beginning.foldl scan (.outside depth)).depth) :
    Balanced text depth := by
  refine ⟨whole, fun beginning isBeginning => ?_⟩
  by_cases isEmpty : beginning = []
  · rw [isEmpty]; exact le_rfl
  · by_cases isWhole : beginning = text
    · rw [isWhole, whole]; exact le_rfl
    · exact proper beginning ⟨isBeginning, isEmpty, isWhole⟩

theorem Spells.balanced {part : Part} (spelled : Spells part text) (depth : ℕ) : Balanced text depth := by
  induction spelled generalizing depth with
  | @word text isWord =>
    have neutral : ∀ text ∈ words, ∀ character ∈ text, character ∉ delimiters :=
      @of_decide_eq_true _ (@List.decidableBAll _ _ (fun _ => List.decidableBAll _ _) _) rfl
    exact .of_neutral (neutral text isWord) depth
  | number digits => exact .of_neutral digits.neutral depth
  | string body =>
    obtain ⟨whole, proper⟩ := body.quoted depth
    refine .of_proper whole fun beginning isProper => ?_
    obtain inside | escaped := proper beginning isProper
    · rw [inside]; exact le_rfl
    · rw [escaped]; exact le_rfl
  | array inner ih =>
    obtain ⟨whole, proper⟩ := Balanced.bracketed '[' ']' rfl rfl (ih (depth + 1))
    exact .of_proper whole fun beginning isProper => (proper beginning isProper).le
  | object inner ih =>
    obtain ⟨whole, proper⟩ := Balanced.bracketed '{' '}' rfl rfl (ih (depth + 1))
    exact .of_proper whole fun beginning isProper => (proper beginning isProper).le
  | empty => exact .of_neutral (by simp) depth
  | item value others valueHypothesis othersHypothesis => exact (valueHypothesis depth).append (othersHypothesis depth)
  | @separator character rest isSeparator others ih =>
    have neutral : ∀ character ∈ " \t\n\r,:".toList, character ∉ delimiters :=
      @of_decide_eq_true _ (List.decidableBAll _ _) rfl
    have single : Balanced [character] depth := .of_neutral (by simpa using neutral character isSeparator) depth
    exact single.append (ih depth)

/-- A string, an array or an object: the reader is back outside only at its end. -/
structure Delimited (text : List Char) : Prop where
  first : ∃ character rest, text = character :: rest ∧ character ∈ delimiters
  whole : text.foldl scan (.outside 0) = .outside 0
  proper : ∀ beginning, ProperBeginning beginning text → beginning.foldl scan (.outside 0) ≠ .outside 0

theorem Spells.cases_value (spelled : Spells .value text) : text ∈ words ∨ NumberText text ∨ Delimited text := by
  cases spelled with
  | word isWord => exact Or.inl isWord
  | number digits => exact Or.inr (Or.inl digits)
  | string body =>
    obtain ⟨whole, proper⟩ := body.quoted 0
    refine Or.inr (Or.inr ⟨⟨_, _, rfl, by decide⟩, whole, fun beginning isProper outside => ?_⟩)
    simpa [outside] using proper beginning isProper
  | array inner =>
    obtain ⟨whole, proper⟩ := Balanced.bracketed '[' ']' rfl rfl (inner.balanced 1)
    refine Or.inr (Or.inr ⟨⟨_, _, rfl, by decide⟩, whole, fun beginning isProper outside => ?_⟩)
    simpa [outside, Scan.depth] using proper beginning isProper
  | object inner =>
    obtain ⟨whole, proper⟩ := Balanced.bracketed '{' '}' rfl rfl (inner.balanced 1)
    refine Or.inr (Or.inr ⟨⟨_, _, rfl, by decide⟩, whole, fun beginning isProper outside => ?_⟩)
    simpa [outside, Scan.depth] using proper beginning isProper

theorem head_of_word {word : List Char} (isWord : word ∈ words) : ∃ character rest, word = character :: rest ∧
    character ∉ delimiters ∧ character ∉ "0123456789+-.eE".toList := by
  simp only [words, List.mem_cons, List.not_mem_nil, or_false] at isWord
  obtain rfl | rfl | rfl := isWord <;> exact ⟨_, _, rfl, by decide, by decide⟩

theorem Spells.eq_of_isPrefix {text longer : List Char} (spelled : Spells .value text) (isLonger : Spells .value longer)
    (isPrefix : text <+: longer) : text = longer ∨ NumberText text := by
  obtain isWord | digits | delimited := spelled.cases_value
  · left
    obtain ⟨character, rest, isHead, notDelimiter, notDigit⟩ := head_of_word isWord
    obtain ⟨more, rfl⟩ := isPrefix
    obtain otherWord | digits | delimited := isLonger.cases_value
    · have apart : ∀ word ∈ words, ∀ other ∈ words, word <+: other → word = other := by decide
      exact apart text isWord _ otherWord (List.prefix_append text more)
    · exact absurd (digits.2 character (by simp [isHead])) notDigit
    · obtain ⟨first, others, sameHead, isDelimiter⟩ := delimited.first
      rw [isHead] at sameHead
      exact absurd ((List.cons.inj sameHead).1 ▸ isDelimiter) notDelimiter
  · exact Or.inr digits
  · left
    obtain ⟨character, rest, isHead, isDelimiter⟩ := delimited.first
    obtain otherWord | digits | longerDelimited := isLonger.cases_value
    · obtain ⟨first, others, sameHead, notDelimiter, -⟩ := head_of_word otherWord
      obtain ⟨more, rfl⟩ := isPrefix
      rw [isHead] at sameHead
      exact absurd ((List.cons.inj sameHead).1 ▸ isDelimiter) notDelimiter
    · exact absurd isDelimiter (digits.neutral character (isPrefix.subset (by simp [isHead])))
    · by_contra notWhole
      exact longerDelimited.proper text ⟨isPrefix, by simp [isHead], notWhole⟩ delimited.whole

end Foundation.JsonShape
